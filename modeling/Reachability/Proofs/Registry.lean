import Mathlib
import Reachability.Agent.Registry

/-!
# What adding and deleting jobs does to the registry

The registry is a list of scheduled jobs, each under an id. Adding under an id replaces
every job of that id by the new one and otherwise appends it; deleting drops the jobs of
the id. So the ids stay pairwise distinct, and the ids held after a run of additions and
deletions are exactly those added or held before, less those deleted afterwards.

The statements here are about ids, tasks and periods only. What an addition keeps of the
replaced job's schedule (last run, run in flight) is a matter for the scheduling proofs.
-/

namespace Reachability.Agent.Registry

open Reachability.Time

variable {α : Type}

/-- An id is held when some job of the registry carries it. -/
theorem mem_ids {r : Registry α} {id : String} : id ∈ r.ids ↔ ∃ j ∈ r.jobs, j.id = id := by
  simp [Registry.ids, List.mem_mergeSort]

/-- The lookup misses exactly the ids that are not held. -/
theorem find?_eq_none_iff {r : Registry α} {id : String} : r.find? id = none ↔ id ∉ r.ids := by
  simp [find?, mem_ids, List.find?_eq_none]

section Adding

variable {id : String} {period : Elapsed} {task : α} {now : Int} {offset : Nat}

/-- A job after an addition is the added one or an old job of another id. -/
theorem mem_add {r : Registry α} {x : Scheduled α}
    (member : x ∈ (r.add id period task now offset).jobs) :
    (x.id = id ∧ x.task = task ∧ x.period = period) ∨ (x ∈ r.jobs ∧ x.id ≠ id) := by
  unfold add at member
  split at member
  · obtain ⟨y, held, rfl⟩ := List.mem_map.1 member
    by_cases same : y.id = id
    · simp [same]
    · simp [same, held]
  · rcases List.mem_append.1 member with held | added
    · have absent := find?_eq_none_iff.1 ‹_›
      exact .inr ⟨held, fun same => absent (mem_ids.2 ⟨x, held, same⟩)⟩
    · simp only [List.mem_singleton] at added
      subst added
      simp

/-- The added job is held, with its task and period, whether it is new or replaces one. -/
theorem exists_added (r : Registry α) :
    ∃ x ∈ (r.add id period task now offset).jobs,
      x.id = id ∧ x.task = task ∧ x.period = period := by
  unfold add
  split
  · rename_i old found
    have held := List.mem_of_find?_eq_some found
    have same : old.id = id := by simpa using List.find?_some found
    refine ⟨{ id, period, task, lastRun := old.lastRun, flag := old.flag },
      List.mem_map.2 ⟨old, held, by simp [same]⟩, rfl, rfl, rfl⟩
  · exact ⟨_, List.mem_append_right _ (List.mem_singleton_self _), rfl, rfl, rfl⟩

/-- Adding keeps every id and holds the added one. -/
theorem mem_ids_add {r : Registry α} {key : String} :
    key ∈ (r.add id period task now offset).ids ↔ key = id ∨ key ∈ r.ids := by
  constructor
  · intro member
    obtain ⟨x, held, rfl⟩ := mem_ids.1 member
    rcases mem_add held with ⟨same, -⟩ | ⟨old, -⟩
    · exact .inl same
    · exact .inr (mem_ids.2 ⟨x, old, rfl⟩)
  · rintro (rfl | old)
    · obtain ⟨x, held, same, -⟩ := @exists_added α key period task now offset r
      exact mem_ids.2 ⟨x, held, same⟩
    · obtain ⟨y, held, rfl⟩ := mem_ids.1 old
      unfold add
      split
      · exact mem_ids.2 ⟨_, List.mem_map.2 ⟨y, held, rfl⟩, by split <;> simp_all⟩
      · exact mem_ids.2 ⟨y, List.mem_append_left _ held, rfl⟩

/-- A replacement keeps the order of ids, and a new id is not held yet: either way the ids
stay distinct. -/
theorem keys_nodup_add {r : Registry α} (unique : (r.jobs.map (·.id)).Nodup) :
    ((r.add id period task now offset).jobs.map (·.id)).Nodup := by
  unfold add
  split
  · rw [List.map_map]
    refine (List.map_congr_left fun x _ => ?_).symm ▸ unique
    by_cases same : x.id = id <;> simp [same]
  · rename_i absent
    have fresh : id ∉ r.jobs.map (·.id) := by
      simpa [mem_ids] using find?_eq_none_iff.1 absent
    simp only [List.map_append, List.map_cons, List.map_nil]
    rw [List.nodup_append]
    refine ⟨unique, List.nodup_singleton _, ?_⟩
    intro key held other added
    rw [List.mem_singleton] at added
    subst added
    exact fun same => fresh (same ▸ held)

end Adding

section Deleting

/-- Deleting drops exactly the jobs of the id. -/
theorem mem_delete {r : Registry α} {id : String} {x : Scheduled α} :
    x ∈ (r.delete id).jobs ↔ x ∈ r.jobs ∧ x.id ≠ id := by
  simp [delete]

/-- Deleting keeps the ids distinct. -/
theorem keys_nodup_delete {r : Registry α} {id : String} (unique : (r.jobs.map (·.id)).Nodup) :
    ((r.delete id).jobs.map (·.id)).Nodup :=
  unique.sublist (List.filter_sublist.map _)

/-- Deleting several ids in turn drops exactly the jobs of those ids. -/
theorem mem_deleteAll {ids : List String} {r : Registry α} {x : Scheduled α} :
    x ∈ (ids.foldl Registry.delete r).jobs ↔ x ∈ r.jobs ∧ x.id ∉ ids := by
  induction ids generalizing r with
  | nil => simp
  | cons id rest inductionHypothesis =>
    simp only [List.foldl_cons, inductionHypothesis, mem_delete, List.mem_cons, not_or]
    tauto

/-- After deleting ids, an id is held exactly when it was held and is not one of them. -/
theorem mem_ids_deleteAll {ids : List String} {r : Registry α} {key : String} :
    key ∈ (ids.foldl Registry.delete r).ids ↔ key ∈ r.ids ∧ key ∉ ids := by
  simp only [mem_ids, mem_deleteAll]
  constructor
  · rintro ⟨x, ⟨held, gone⟩, rfl⟩
    exact ⟨⟨x, held, rfl⟩, gone⟩
  · rintro ⟨⟨x, held, rfl⟩, gone⟩
    exact ⟨x, ⟨held, gone⟩, rfl⟩

/-- Deleting ids keeps the ids distinct. -/
theorem keys_nodup_deleteAll {ids : List String} {r : Registry α}
    (unique : (r.jobs.map (·.id)).Nodup) : ((ids.foldl Registry.delete r).jobs.map (·.id)).Nodup := by
  induction ids generalizing r with
  | nil => exact unique
  | cons id rest inductionHypothesis => exact inductionHypothesis (keys_nodup_delete unique)

end Deleting

section AddingAll

/-! Tasks added in turn, each under its own key with its own period and first-run offset. -/

variable (key : α → String) (per : α → Elapsed) (now : Int) (offset : String → Nat)

/-- A job after adding several tasks holds the last task added under its id, or is an old
job whose id none of them has. -/
theorem mem_addAll {tasks : List α} {r : Registry α} {x : Scheduled α}
    (member : x ∈ (tasks.foldl (fun r t => r.add (key t) (per t) t now (offset (key t))) r).jobs) :
    (x.task ∈ tasks ∧ x.id = key x.task ∧ x.period = per x.task) ∨
      (x ∈ r.jobs ∧ x.id ∉ tasks.map key) := by
  induction tasks generalizing r with
  | nil => exact .inr ⟨member, by simp⟩
  | cons t rest inductionHypothesis =>
    rcases inductionHypothesis member with ⟨later, sameKey, samePeriod⟩ | ⟨earlier, notLater⟩
    · exact .inl ⟨List.mem_cons_of_mem t later, sameKey, samePeriod⟩
    · rcases mem_add earlier with ⟨sameKey, sameTask, samePeriod⟩ | ⟨old, other⟩
      · subst sameTask
        exact .inl ⟨List.mem_cons_self, sameKey, samePeriod⟩
      · exact .inr ⟨old, by simp [other, notLater]⟩

/-- After adding tasks, an id is held exactly when it is a task's key or was held. -/
theorem mem_ids_addAll {tasks : List α} {r : Registry α} {id : String} :
    id ∈ (tasks.foldl (fun r t => r.add (key t) (per t) t now (offset (key t))) r).ids ↔
      id ∈ tasks.map key ∨ id ∈ r.ids := by
  induction tasks generalizing r with
  | nil => simp
  | cons t rest inductionHypothesis =>
    simp only [List.foldl_cons, inductionHypothesis, mem_ids_add, List.map_cons, List.mem_cons]
    tauto

/-- Adding tasks keeps the ids distinct. -/
theorem keys_nodup_addAll {tasks : List α} {r : Registry α} (unique : (r.jobs.map (·.id)).Nodup) :
    ((tasks.foldl (fun r t => r.add (key t) (per t) t now (offset (key t))) r).jobs.map
      (·.id)).Nodup := by
  induction tasks generalizing r with
  | nil => exact unique
  | cons t rest inductionHypothesis => exact inductionHypothesis (keys_nodup_add unique)

end AddingAll

/-- In a registry of distinct ids, the jobs of a held id are exactly the one that holds it. -/
theorem filter_id_eq_singleton {r : Registry α} {x : Scheduled α}
    (unique : (r.jobs.map (·.id)).Nodup) (held : x ∈ r.jobs) :
    r.jobs.filter (·.id == x.id) = [x] := by
  generalize r.jobs = jobs at unique held
  induction jobs with
  | nil => cases held
  | cons y rest inductionHypothesis =>
    simp only [List.map_cons, List.nodup_cons, List.mem_map] at unique
    rcases List.mem_cons.1 held with rfl | later
    · have none : rest.filter (·.id == x.id) = [] := by
        simp only [List.filter_eq_nil_iff, beq_iff_eq]
        exact fun z member same => unique.1 ⟨z, member, same⟩
      simp [none]
    · have other : y.id ≠ x.id := fun same => unique.1 ⟨x, later, same.symm⟩
      simp [other, inductionHypothesis unique.2 later]

end Reachability.Agent.Registry
