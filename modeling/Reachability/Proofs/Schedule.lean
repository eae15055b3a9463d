import Mathlib
import Reachability.Proofs.Registry

/-!
# Runs under one id keep apart

A tick starts a run of a job only when the job is due and its flag, set by its runs in flight,
is clear. Two things carry a job's schedule from one run to the next: its last run, and its
flag, both of which the job that replaces it under its id takes over. So as long as an id stays
in the registry, whatever is added under it in between, its runs never overlap (a run has ended
before the next one starts) and start at least a period apart, the period being the one in force
when the later run starts.

A delete forgets the schedule. A job added afresh under the id gets a new flag and is placed as
if it had last run a little before now, so its first run may start while the deleted job's run
is still in flight, and sooner than a period after that run.

A run of the registry is a list of events, each at its time: additions (with the offset at which
a new job is placed before now), deletions, ticks, and the ends of runs in flight, each named by
the flag its run set.

Main statements:

* `runs_under_an_id_keep_apart`: two starts under one id with no delete of it in between have
  the end of the first run between them, and are at least the later job's period apart;
* `readded_job_overlaps_deleted_run`: a delete and a fresh add in between break both.
-/

namespace Reachability.Agent

open Reachability.Time

-- jobs compare field by field, so that the runs a concrete tick starts can be decided
deriving instance DecidableEq for Scheduled

namespace Scheduled

variable {α : Type}

/-- A job is due when it never ran, or a whole period has passed since its last run. -/
theorem isDue_iff {j : Scheduled α} {now : Int} :
    j.isDue now = true ↔ ∀ last, j.lastRun = some last → last + j.period.nanos ≤ now := by
  unfold isDue
  split <;> simp_all

/-- A tick starts a job exactly when its flag is clear and it is due; the start is its last run. -/
theorem tick?_eq_some {j j' : Scheduled α} {active : List Nat} {now : Int} :
    j.tick? active now = some j' ↔
      j.flag ∉ active ∧ j.isDue now = true ∧ j' = { j with lastRun := some now } := by
  unfold tick?
  split
  · rename_i blocked
    simp only [Bool.or_eq_true, List.contains_iff_mem, Bool.not_eq_true'] at blocked
    simp only [reduceCtorEq, false_iff, not_and]
    intro clear due
    rcases blocked with set | notDue
    · exact absurd set clear
    · simp [due] at notDue
  · rename_i free
    simp only [Bool.or_eq_true, List.contains_iff_mem, Bool.not_eq_true', not_or,
      Bool.not_eq_false] at free
    simp only [Option.some.injEq, free, not_false_eq_true, true_and]
    exact eq_comm

end Scheduled

namespace Registry

variable {α : Type}

/-! ## What a tick does -/

/-- One job's turn in a tick, given the jobs so far, the runs started so far and the flags set
so far. -/
def tickTurn (now : Int) (acc : List (Scheduled α) × List (Scheduled α) × List Nat)
    (j : Scheduled α) : List (Scheduled α) × List (Scheduled α) × List Nat :=
  match j.tick? acc.2.2 now with
  | some j' => (acc.1 ++ [j'], acc.2.1 ++ [j'], j'.flag :: acc.2.2)
  | none => (acc.1 ++ [j], acc.2.1, acc.2.2)

/-- A tick gives every job its turn, starting from the flags of the runs in flight. -/
theorem tick_eq (r : Registry α) (now : Int) :
    r.tick now =
      ({ r with jobs := (r.jobs.foldl (tickTurn now) ([], [], r.active)).1,
                active := (r.jobs.foldl (tickTurn now) ([], [], r.active)).2.2 },
        (r.jobs.foldl (tickTurn now) ([], [], r.active)).2.1) := rfl

section Turns

variable (now : Int)

/-- The turns keep the jobs in their order, each under its id. -/
theorem ids_turns (jobs : List (Scheduled α)) (acc) :
    (jobs.foldl (tickTurn now) acc).1.map (·.id) = acc.1.map (·.id) ++ jobs.map (·.id) := by
  induction jobs generalizing acc with
  | nil => simp
  | cons j rest inductionHypothesis =>
    rw [List.foldl_cons, inductionHypothesis]
    cases turn : j.tick? acc.2.2 now with
    | none => simp [tickTurn, turn]
    | some j' =>
      obtain ⟨-, -, rfl⟩ := Scheduled.tick?_eq_some.1 turn
      simp [tickTurn, turn]

/-- The turns over more jobs only append to the runs already started. -/
theorem prefix_turns (jobs : List (Scheduled α)) (acc) :
    acc.1 <+: (jobs.foldl (tickTurn now) acc).1 := by
  induction jobs generalizing acc with
  | nil => exact List.prefix_refl _
  | cons j rest inductionHypothesis =>
    rw [List.foldl_cons]
    refine List.IsPrefix.trans ?_ (inductionHypothesis _)
    cases turn : j.tick? acc.2.2 now <;> simp [tickTurn, turn]

/-- After the turns a job is one of before, as it was or started now. -/
theorem mem_turns {jobs : List (Scheduled α)} {acc} {x' : Scheduled α}
    (member : x' ∈ (jobs.foldl (tickTurn now) acc).1) :
    x' ∈ acc.1 ∨ ∃ x ∈ jobs, x' = x ∨ x' = { x with lastRun := some now } := by
  induction jobs generalizing acc with
  | nil => exact .inl member
  | cons j rest inductionHypothesis =>
    rw [List.foldl_cons] at member
    rcases inductionHypothesis member with earlier | ⟨x, later, same⟩
    · cases turn : j.tick? acc.2.2 now with
      | none =>
        simp only [tickTurn, turn, List.mem_append, List.mem_singleton] at earlier
        rcases earlier with old | rfl
        · exact .inl old
        · exact .inr ⟨x', List.mem_cons_self, .inl rfl⟩
      | some j' =>
        obtain ⟨-, -, rfl⟩ := Scheduled.tick?_eq_some.1 turn
        simp only [tickTurn, turn, List.mem_append, List.mem_singleton] at earlier
        rcases earlier with old | rfl
        · exact .inl old
        · exact .inr ⟨j, List.mem_cons_self, .inr rfl⟩
    · exact .inr ⟨x, List.mem_cons_of_mem j later, same⟩

/-- The turns start some runs after those started before, and set their flags in front of the
flags set before. Each run started is among the jobs after the turns: a job that was due and
whose flag was clear, started now. -/
theorem started_turns (jobs : List (Scheduled α)) (acc) :
    ∃ fresh, (jobs.foldl (tickTurn now) acc).2.1 = acc.2.1 ++ fresh ∧
      (jobs.foldl (tickTurn now) acc).2.2 = (fresh.map (·.flag)).reverse ++ acc.2.2 ∧
      ∀ y ∈ fresh, y ∈ (jobs.foldl (tickTurn now) acc).1 ∧
        ∃ x ∈ jobs, y = { x with lastRun := some now } ∧ x.isDue now = true ∧
          x.flag ∉ acc.2.2 := by
  induction jobs generalizing acc with
  | nil => exact ⟨[], by simp, by simp, by simp⟩
  | cons j rest inductionHypothesis =>
    simp only [List.foldl_cons]
    cases turn : j.tick? acc.2.2 now with
    | none =>
      obtain ⟨fresh, started, flags, origin⟩ := inductionHypothesis (acc.1 ++ [j], acc.2.1, acc.2.2)
      refine ⟨fresh, by simpa [tickTurn, turn] using started, by simpa [tickTurn, turn] using flags,
        fun y member => ?_⟩
      obtain ⟨kept, x, held, rfl, due, clear⟩ := origin y member
      exact ⟨by simpa [tickTurn, turn] using kept, x, List.mem_cons_of_mem j held, rfl, due, clear⟩
    | some j' =>
      obtain ⟨clear, due, rfl⟩ := Scheduled.tick?_eq_some.1 turn
      obtain ⟨fresh, started, flags, origin⟩ := inductionHypothesis
        (acc.1 ++ [{ j with lastRun := some now }], acc.2.1 ++ [{ j with lastRun := some now }],
          j.flag :: acc.2.2)
      refine ⟨{ j with lastRun := some now } :: fresh, ?_, ?_, ?_⟩
      · simpa [tickTurn, turn] using started
      · simpa [tickTurn, turn] using flags
      · intro y member
        rcases List.mem_cons.1 member with rfl | later
        · have kept := prefix_turns now rest
            (acc.1 ++ [{ j with lastRun := some now }], acc.2.1 ++ [{ j with lastRun := some now }],
              j.flag :: acc.2.2)
          refine ⟨?_, j, List.mem_cons_self, rfl, due, clear⟩
          simp only [tickTurn, turn]
          exact kept.subset (by simp)
        · obtain ⟨inside, x, held, rfl, due', clear'⟩ := origin y later
          refine ⟨by simpa [tickTurn, turn] using inside, x, List.mem_cons_of_mem j held, rfl, due',
            fun set => clear' (List.mem_cons_of_mem _ set)⟩

end Turns

/-- A tick keeps the ids in their order. -/
theorem ids_tick (r : Registry α) (now : Int) :
    (r.tick now).1.jobs.map (·.id) = r.jobs.map (·.id) := by
  simp [tick_eq, ids_turns]

/-- After a tick a job is one of before, as it was or started now. -/
theorem mem_tick {r : Registry α} {now : Int} {x' : Scheduled α}
    (member : x' ∈ (r.tick now).1.jobs) :
    ∃ x ∈ r.jobs, x' = x ∨ x' = { x with lastRun := some now } := by
  rw [tick_eq] at member
  simpa using mem_turns now member

/-- A run a tick starts is a job that was due and whose flag was clear, started now; it stays in
the registry and its flag is set. -/
theorem mem_started {r : Registry α} {now : Int} {y : Scheduled α} (started : y ∈ (r.tick now).2) :
    y ∈ (r.tick now).1.jobs ∧ y.flag ∈ (r.tick now).1.active ∧
      ∃ x ∈ r.jobs, y = { x with lastRun := some now } ∧ x.isDue now = true ∧
        x.flag ∉ r.active := by
  obtain ⟨fresh, runs, flags, origin⟩ := started_turns now r.jobs ([], [], r.active)
  rw [tick_eq] at started ⊢
  simp only [runs, List.nil_append] at started
  obtain ⟨kept, rest⟩ := origin y started
  refine ⟨kept, ?_, rest⟩
  simp only [flags, List.mem_append, List.mem_reverse, List.mem_map]
  exact .inl ⟨y, started, rfl⟩

/-- A tick clears no flag. -/
theorem active_tick_of_mem {r : Registry α} {now : Int} {f : Nat} (set : f ∈ r.active) :
    f ∈ (r.tick now).1.active := by
  obtain ⟨fresh, -, flags, -⟩ := started_turns now r.jobs ([], [], r.active)
  rw [tick_eq]
  simp only [flags, List.mem_append]
  exact .inr set

/-! ## What an addition keeps of a schedule -/

/-- Adding under a held id replaces its jobs by one that takes over the last run and the flag of
the job found under it. -/
theorem add_of_find? {r : Registry α} {id : String} {period : Elapsed} {task : α} {now : Int}
    {offset : Nat} {old : Scheduled α} (found : r.find? id = some old) :
    (r.add id period task now offset).jobs = r.jobs.map fun x =>
      if x.id == id then { id, period, task, lastRun := old.lastRun, flag := old.flag } else x := by
  simp only [add, found]

/-- A job found under an id is held and carries that id. -/
theorem find?_spec {r : Registry α} {id : String} {old : Scheduled α}
    (found : r.find? id = some old) : old ∈ r.jobs ∧ old.id = id :=
  ⟨List.mem_of_find?_eq_some found, by simpa using List.find?_some found⟩

/-- Adding and deleting set and clear no flag. -/
@[simp]
theorem active_add {r : Registry α} {id : String} {period : Elapsed} {task : α} {now : Int}
    {offset : Nat} : (r.add id period task now offset).active = r.active := by
  unfold add
  split <;> rfl

/-- Deleting a job sets and clears no flag. -/
@[simp]
theorem active_delete {r : Registry α} {id : String} : (r.delete id).active = r.active := rfl

/-! ## Runs of events -/

/-- What happens to a registry: a job is added under an id (a new one placed as having last run
`offset` nanoseconds before now), the job of an id is deleted, the clock ticks, or the run that
set a flag ends. -/
inductive Event (α : Type) where
  | add (id : String) (period : Elapsed) (task : α) (offset : Nat)
  | delete (id : String)
  | tick
  | finish (flag : Nat)
deriving DecidableEq, Repr

/-- An event at `now`: the registry after it, and the runs it started. -/
def step (r : Registry α) (now : Int) : Event α → Registry α × List (Scheduled α)
  | .add id period task offset => (r.add id period task now offset, [])
  | .delete id => (r.delete id, [])
  | .tick => r.tick now
  | .finish flag => (r.finish flag, [])

/-- The registry after events, each at its time. -/
def run (r : Registry α) (events : List (Int × Event α)) : Registry α :=
  events.foldl (fun r e => (r.step e.1 e.2).1) r

/-- A run of no events leaves the registry as it is. -/
@[simp]
theorem run_nil (r : Registry α) : r.run [] = r := rfl

/-- A run takes its first event, then the rest from the registry that event leaves. -/
@[simp]
theorem run_cons (r : Registry α) (e : Int × Event α) (events : List (Int × Event α)) :
    r.run (e :: events) = (r.step e.1 e.2).1.run events := rfl

/-- Only a tick starts runs. -/
theorem started_step {r : Registry α} {now : Int} {e : Event α} {y : Scheduled α}
    (started : y ∈ (r.step now e).2) : e = .tick ∧ y ∈ (r.tick now).2 := by
  cases e <;> simp_all [step]

/-- One event keeps the ids distinct. -/
theorem keys_nodup_step {r : Registry α} (unique : (r.jobs.map (·.id)).Nodup) (now : Int)
    (e : Event α) : ((r.step now e).1.jobs.map (·.id)).Nodup := by
  cases e with
  | add id period task offset => exact keys_nodup_add unique
  | delete id => exact keys_nodup_delete unique
  | tick => simpa [step, ids_tick] using unique
  | finish flag => exact unique

/-- The ids stay distinct along every run. -/
theorem keys_nodup_run {r : Registry α} (unique : (r.jobs.map (·.id)).Nodup)
    (events : List (Int × Event α)) : ((r.run events).jobs.map (·.id)).Nodup := by
  induction events generalizing r with
  | nil => exact unique
  | cons e rest inductionHypothesis => exact inductionHypothesis (keys_nodup_step unique e.1 e.2)

/-- A flag stays set until an end of its run. -/
theorem active_step {r : Registry α} {f : Nat} (set : f ∈ r.active) (now : Int) {e : Event α}
    (notEnd : e ≠ .finish f) : f ∈ (r.step now e).1.active := by
  cases e with
  | add id period task offset => simpa [step] using set
  | delete id => exact set
  | tick => exact active_tick_of_mem set
  | finish g =>
    have other : f ≠ g := fun same => notEnd (same ▸ rfl)
    simpa [step, finish, other] using set

/-- A flag stays set along every run that does not end it. -/
theorem active_run {r : Registry α} {f : Nat} (set : f ∈ r.active) {events : List (Int × Event α)}
    (noEnd : ∀ e ∈ events, e.2 ≠ .finish f) : f ∈ (r.run events).active := by
  induction events generalizing r with
  | nil => exact set
  | cons e rest inductionHypothesis =>
    exact inductionHypothesis (active_step set e.1 (noEnd e List.mem_cons_self))
      fun e' later => noEnd e' (List.mem_cons_of_mem e later)

/-! ## The schedule an id carries -/

/-- An id carries the schedule of a run that started at `since` with flag `f`: the id is held,
and every job held under it has flag `f` and last ran at `since` or later. -/
structure Carries (r : Registry α) (id : String) (f : Nat) (since : Int) : Prop where
  held : id ∈ r.ids
  flag : ∀ x ∈ r.jobs, x.id = id → x.flag = f
  lastRun : ∀ x ∈ r.jobs, x.id = id → ∃ last, x.lastRun = some last ∧ since ≤ last

variable {id : String} {f : Nat} {since : Int}

/-- A registry that holds the id, with no job under it but jobs of one that carries its schedule,
carries it too. -/
theorem Carries.of_subset {r r' : Registry α} (carried : r.Carries id f since) (held : id ∈ r'.ids)
    (old : ∀ x ∈ r'.jobs, x.id = id → x ∈ r.jobs) : r'.Carries id f since :=
  ⟨held, fun x member same => carried.flag x (old x member same) same,
    fun x member same => carried.lastRun x (old x member same) same⟩

/-- Adding under the carried id is a replacement, which takes the carried schedule over. -/
theorem Carries.add_self {r : Registry α} (carried : r.Carries id f since) (period : Elapsed)
    (task : α) (now : Int) (offset : Nat) :
    (r.add id period task now offset).Carries id f since := by
  obtain ⟨old, found⟩ := Option.ne_none_iff_exists'.1 fun absent =>
    find?_eq_none_iff.1 absent carried.held
  obtain ⟨held, sameId⟩ := find?_spec found
  have replaced {x : Scheduled α} (member : x ∈ (r.add id period task now offset).jobs)
      (same : x.id = id) :
      x = { id, period, task, lastRun := old.lastRun, flag := old.flag } := by
    rw [add_of_find? found] at member
    obtain ⟨y, -, rfl⟩ := List.mem_map.1 member
    by_cases other : y.id = id
    · simp [other]
    · simp [other] at same
  refine ⟨mem_ids_add.2 (.inl rfl), fun x member same => ?_, fun x member same => ?_⟩
  · rw [replaced member same]
    exact carried.flag old held sameId
  · rw [replaced member same]
    exact carried.lastRun old held sameId

/-- Every event but a delete of the carried id keeps the schedule carried, provided a tick does
not come earlier than the run it carries. -/
theorem Carries.step {r : Registry α} (carried : r.Carries id f since) {now : Int} {e : Event α}
    (kept : e ≠ .delete id) (later : since ≤ now) : (r.step now e).1.Carries id f since := by
  cases e with
  | add id' period task offset =>
    by_cases same : id' = id
    · subst same
      exact carried.add_self period task now offset
    · -- a job under the id after adding under another was held before
      refine carried.of_subset (mem_ids_add.2 (.inr carried.held)) fun x member sameId => ?_
      rcases mem_add member with ⟨added, -⟩ | ⟨old, -⟩
      · exact absurd (added.symm.trans sameId) same
      · exact old
  | delete id' =>
    have other : id' ≠ id := fun same => kept (same ▸ rfl)
    refine carried.of_subset ?_ fun x member _ => (mem_delete.1 member).1
    obtain ⟨x, member, rfl⟩ := mem_ids.1 carried.held
    exact mem_ids.2 ⟨x, mem_delete.2 ⟨member, fun same => other same.symm⟩, rfl⟩
  | tick =>
    have held : id ∈ (r.tick now).1.ids := by
      simpa [Registry.ids, ids_tick] using carried.held
    refine ⟨held, fun x' member sameId => ?_, fun x' member sameId => ?_⟩
    · obtain ⟨x, old, rfl | rfl⟩ := mem_tick member
      · exact carried.flag _ old sameId
      · exact carried.flag x old sameId
    · obtain ⟨x, old, rfl | rfl⟩ := mem_tick member
      · exact carried.lastRun _ old sameId
      · exact ⟨now, rfl, later⟩
  | finish g => exact carried.of_subset carried.held fun x member _ => member

/-- An id keeps the schedule it carries along every run that does not delete it and does not tick
before the run it carries. -/
theorem Carries.run {r : Registry α} (carried : r.Carries id f since)
    {events : List (Int × Event α)} (kept : ∀ e ∈ events, e.2 ≠ .delete id)
    (later : ∀ e ∈ events, since ≤ e.1) : (r.run events).Carries id f since := by
  induction events generalizing r with
  | nil => exact carried
  | cons e rest inductionHypothesis =>
    exact inductionHypothesis (carried.step (kept e List.mem_cons_self) (later e List.mem_cons_self))
      (fun e' member => kept e' (List.mem_cons_of_mem e member))
      (fun e' member => later e' (List.mem_cons_of_mem e member))

/-- Right after a tick starts a run, the id of the run carries its schedule: in a registry of
distinct ids the run is the only job of its id. -/
theorem carries_of_started {r : Registry α} (unique : (r.jobs.map (·.id)).Nodup) {now : Int}
    {y : Scheduled α} (started : y ∈ (r.tick now).2) : (r.tick now).1.Carries y.id y.flag now := by
  obtain ⟨kept, set, x, -, rfl, -, -⟩ := mem_started started
  have distinct : ((r.tick now).1.jobs.map (·.id)).Nodup := by rwa [ids_tick]
  have only {x' : Scheduled α} (member : x' ∈ (r.tick now).1.jobs)
      (same : x'.id = x.id) : x' = { x with lastRun := some now } :=
    List.inj_on_of_nodup_map distinct member kept same
  refine ⟨mem_ids.2 ⟨_, kept, rfl⟩, fun x' member same => ?_, fun x' member same => ?_⟩
  · rw [only member same]
  · rw [only member same]
    exact ⟨now, rfl, le_refl now⟩

/-! ## Runs under one id -/

/-- Runs under one id keep apart while the id stays in the registry. Along any run of events from
an empty registry, take a run `x1` started at `t1` and a later run `x2` started under the same id
at `t2`, with no delete of the id in between and no event in between earlier than `t1`. Then the
first run ended in between, so the two never overlap, and `x2` started at least its period after
`x1`.

Proof: from the first start on, the id carries the first run's flag and a last run no earlier
than `t1` (`Carries.run`), so the job that starts `x2` is due a period after `t1`, and its flag is
the first run's, which stays set until that run ends (`active_run`). -/
theorem runs_under_an_id_keep_apart {pre mid : List (Int × Event α)} {t1 t2 : Int}
    {e1 e2 : Event α} {x1 x2 : Scheduled α}
    (first : x1 ∈ (((({} : Registry α).run pre).step t1 e1).2))
    (second : x2 ∈ (((((({} : Registry α).run pre).step t1 e1).1.run mid).step t2 e2).2))
    (sameId : x2.id = x1.id) (kept : ∀ e ∈ mid, e.2 ≠ .delete x1.id)
    (later : ∀ e ∈ mid, t1 ≤ e.1) :
    (∃ e ∈ mid, e.2 = .finish x1.flag) ∧ t1 + x2.period.nanos ≤ t2 := by
  obtain ⟨rfl, firstStart⟩ := started_step first
  obtain ⟨rfl, secondStart⟩ := started_step second
  have empty : (({} : Registry α).jobs.map (·.id)).Nodup := List.nodup_nil
  have unique := keys_nodup_run empty pre
  -- from the first start on, the id carries the first run's schedule
  have carried := (carries_of_started unique firstStart).run kept later
  obtain ⟨-, -, x, held, rfl, due, clear⟩ := mem_started secondStart
  obtain ⟨last, lastRun, since⟩ := carried.lastRun x held sameId
  have sameFlag := carried.flag x held sameId
  refine ⟨?_, ?_⟩
  · -- the first run's flag was set when it started and is clear when the second starts
    have set : x1.flag ∈ ((({} : Registry α).run pre).tick t1).1.active :=
      (mem_started firstStart).2.1
    by_contra noEnd
    exact clear (sameFlag ▸ active_run set fun e member finished => noEnd ⟨e, member, finished⟩)
  · have waited := Scheduled.isDue_iff.1 due last lastRun
    change t1 + (x.period.nanos : Int) ≤ t2
    omega

/-- A job replaced under its id, with a longer period, between a run and the end of that run:
the next run starts at the end of the new period. -/
theorem replaced_job_runs_a_period_later :
    let pre : List (Int × Event Unit) := [(0, .add "j" ⟨1000000000⟩ () 0)]
    let mid : List (Int × Event Unit) :=
      [(1500000000, .add "j" ⟨2000000000⟩ () 0), (1800000000, .finish 0)]
    let x1 : Scheduled Unit :=
      { id := "j", period := ⟨1000000000⟩, task := (), lastRun := some 1000000000, flag := 0 }
    let x2 : Scheduled Unit :=
      { id := "j", period := ⟨2000000000⟩, task := (), lastRun := some 3000000000, flag := 0 }
    x1 ∈ ((({} : Registry Unit).run pre).step 1000000000 .tick).2 ∧
      x2 ∈ (((((({} : Registry Unit).run pre).step 1000000000 .tick).1.run mid).step
        3000000000 .tick).2) ∧
      x2.id = x1.id ∧ (∀ e ∈ mid, e.2 ≠ .delete x1.id) ∧ (∀ e ∈ mid, 1000000000 ≤ e.1) ∧
      (∃ e ∈ mid, e.2 = .finish x1.flag) ∧ (1000000000 : Int) + x2.period.nanos ≤ 3000000000 := by
  intro pre mid x1 x2
  have first : x1 ∈ ((({} : Registry Unit).run pre).step 1000000000 .tick).2 := by decide
  have second : x2 ∈ (((((({} : Registry Unit).run pre).step 1000000000 .tick).1.run mid).step
      3000000000 .tick).2) := by decide
  have kept : ∀ e ∈ mid, e.2 ≠ .delete x1.id := by decide
  have later : ∀ e ∈ mid, (1000000000 : Int) ≤ e.1 := by decide
  exact ⟨first, second, rfl, kept, later, runs_under_an_id_keep_apart first second rfl kept later⟩

/-- A delete and a fresh add under the id between two runs break both guarantees. The job added
afresh gets a new flag and is placed as having run almost a period before, so a tick a
nanosecond later starts its run: the deleted job's run is still in flight, since no end of it
came, and less than a period has passed since that run started. -/
theorem readded_job_overlaps_deleted_run :
    let pre : List (Int × Event Unit) := [(0, .add "j" ⟨1000000000⟩ () 0)]
    let mid : List (Int × Event Unit) :=
      [(1000000000, .delete "j"), (1000000000, .add "j" ⟨1000000000⟩ () 999999999)]
    let x1 : Scheduled Unit :=
      { id := "j", period := ⟨1000000000⟩, task := (), lastRun := some 1000000000, flag := 0 }
    let x2 : Scheduled Unit :=
      { id := "j", period := ⟨1000000000⟩, task := (), lastRun := some 1000000001, flag := 1 }
    x1 ∈ ((({} : Registry Unit).run pre).step 1000000000 .tick).2 ∧
      x2 ∈ (((((({} : Registry Unit).run pre).step 1000000000 .tick).1.run mid).step
        1000000001 .tick).2) ∧
      x2.id = x1.id ∧ (∀ e ∈ mid, 1000000000 ≤ e.1) ∧
      x1.flag ∈ (((({} : Registry Unit).run pre).step 1000000000 .tick).1.run mid).active ∧
      ¬ (∃ e ∈ mid, e.2 = .finish x1.flag) ∧ (1000000001 : Int) < 1000000000 + x2.period.nanos := by
  decide

end Registry

end Reachability.Agent
