import Mathlib
import Reachability.Config.Load
import Reachability.Proofs.Except

/-!
# Checking an agent's settings

Settings are checked once they are read, so that each network mode runs one job per id. A
report period or a window of zero is refused, and in each mode that is set, every job needs
an id that no job before it in the mode has. The check stops at the first fault, in this
order: report period, window, the jobs of the host network in list order, then those of the
pod network; of one job, a missing id is reported before a repeated one.

Main statement, `settings_check_reports_first_fault`: the settings pass exactly when report
period and window are not zero and every mode that is set keeps one job per id
(`OneJobPerId`); otherwise the message is that of the first fault, described without the
walk the check makes (`FirstJobFault`). Settings loaded from a file have passed.

The check walks the jobs of a mode with the ids seen so far. `jobProblem_eq_none_iff` says
when the walk finds nothing from any such list of ids, `jobProblem_append` that a clean
stretch of jobs only adds its ids to the list, and `exists_first_fault` where a walk that
finds a fault found it.
-/

namespace Reachability.Config

/-- The jobs of a mode keep one job per id: every job has an id, and no two share one. -/
def OneJobPerId (js : List Job) : Prop :=
  (∀ j ∈ js, j.id ≠ "") ∧ (js.map (·.id)).Nodup

/-- `m` reports the first job of `js` that breaks one job per id, in the mode `mode`: the jobs
before it keep one job per id, and it has no id, or the id of one of them. -/
def FirstJobFault (mode : String) (js : List Job) (m : String) : Prop :=
  ∃ pre j post, js = pre ++ j :: post ∧ OneJobPerId pre ∧
    (j.id = "" ∧ m = mode ++ ": job without jobID" ∨
      j.id ≠ "" ∧ j.id ∈ pre.map (·.id) ∧ m = mode ++ ": duplicate jobID " ++ j.id)

namespace Agent

section Walk

variable {mode : String}

/-- The walk over the jobs of a mode, one job at a time. -/
theorem jobProblem_cons (j : Job) (rest : List Job) (seen : List String) :
    jobProblem mode (j :: rest) seen =
      if j.id = "" then some (mode ++ ": job without jobID")
      else if j.id ∈ seen then some (mode ++ ": duplicate jobID " ++ j.id)
      else jobProblem mode rest (j.id :: seen) := by
  simp only [jobProblem, String.isEmpty_iff, List.contains_iff_mem]

/-- The walk finds nothing exactly when every job has an id, no two jobs share one, and none
was seen before the walk. -/
theorem jobProblem_eq_none_iff (js : List Job) (seen : List String) :
    jobProblem mode js seen = none ↔
      (∀ j ∈ js, j.id ≠ "") ∧ (js.map (·.id)).Nodup ∧ ∀ j ∈ js, j.id ∉ seen := by
  induction js generalizing seen with
  | nil => simp [jobProblem]
  | cons j rest inductionHypothesis =>
    rw [jobProblem_cons]
    by_cases empty : j.id = ""
    · simp [empty]
    by_cases taken : j.id ∈ seen
    · simp [empty, taken]
    -- the job is clean: the rest is walked with its id seen
    simp only [empty, taken, if_false, inductionHypothesis, List.mem_cons, List.map_cons,
      List.nodup_cons, List.mem_map, forall_eq_or_imp]
    constructor
    · rintro ⟨named, unique, unseen⟩
      refine ⟨⟨empty, named⟩, ⟨?_, unique⟩, not_false,
        fun k held => (not_or.1 (unseen k held)).2⟩
      rintro ⟨k, held, same⟩
      exact (not_or.1 (unseen k held)).1 same
    · rintro ⟨⟨-, named⟩, ⟨fresh, unique⟩, -, unseen⟩
      exact ⟨named, unique,
        fun k held => not_or.2 ⟨fun same => fresh ⟨k, held, same⟩, unseen k held⟩⟩

/-- A stretch of jobs in which the walk finds nothing only adds their ids to those seen. -/
theorem jobProblem_append {pre : List Job} {seen : List String}
    (clean : jobProblem mode pre seen = none) (rest : List Job) :
    jobProblem mode (pre ++ rest) seen =
      jobProblem mode rest ((pre.map (·.id)).reverse ++ seen) := by
  induction pre generalizing seen with
  | nil => rfl
  | cons k pre inductionHypothesis =>
    rw [jobProblem_cons] at clean
    by_cases empty : k.id = ""
    · simp [empty] at clean
    by_cases taken : k.id ∈ seen
    · simp [empty, taken] at clean
    simp only [empty, taken, if_false] at clean
    rw [List.cons_append, jobProblem_cons, if_neg empty, if_neg taken,
      inductionHypothesis clean]
    simp

/-- Where the walk finds a fault: after a stretch in which it finds nothing, at a job with no
id or with an id seen before it. -/
theorem exists_first_fault {m : String} :
    ∀ {js : List Job} {seen : List String}, jobProblem mode js seen = some m →
      ∃ pre j post, js = pre ++ j :: post ∧ jobProblem mode pre seen = none ∧
        (j.id = "" ∧ m = mode ++ ": job without jobID" ∨
          j.id ≠ "" ∧ j.id ∈ (pre.map (·.id)).reverse ++ seen ∧
            m = mode ++ ": duplicate jobID " ++ j.id)
  | [], _, found => by simp [jobProblem] at found
  | j :: rest, seen, found => by
    rw [jobProblem_cons] at found
    by_cases empty : j.id = ""
    · simp only [empty, if_true, Option.some.injEq] at found
      exact ⟨[], j, rest, rfl, rfl, .inl ⟨empty, found.symm⟩⟩
    by_cases taken : j.id ∈ seen
    · simp only [empty, taken, if_true, if_false, Option.some.injEq] at found
      exact ⟨[], j, rest, rfl, rfl, .inr ⟨empty, by simpa using taken, found.symm⟩⟩
    -- the job is clean, and the fault lies further on
    simp only [empty, taken, if_false] at found
    obtain ⟨pre, k, post, split, clean, fault⟩ := exists_first_fault found
    refine ⟨j :: pre, k, post, by rw [split, List.cons_append], ?_, ?_⟩
    · rw [jobProblem_cons, if_neg empty, if_neg taken]
      exact clean
    · simpa using fault

/-- The walk from nothing seen finds exactly the first fault. -/
theorem jobProblem_eq_some_iff (js : List Job) (m : String) :
    jobProblem mode js [] = some m ↔ FirstJobFault mode js m := by
  constructor
  · intro found
    obtain ⟨pre, j, post, split, clean, fault⟩ := exists_first_fault found
    have kept : OneJobPerId pre := by
      obtain ⟨named, unique, -⟩ := (jobProblem_eq_none_iff pre []).1 clean
      exact ⟨named, unique⟩
    exact ⟨pre, j, post, split, kept, by simpa using fault⟩
  · rintro ⟨pre, j, post, rfl, ⟨named, unique⟩, fault⟩
    have clean : jobProblem mode pre [] = none :=
      (jobProblem_eq_none_iff pre []).2 ⟨named, unique, by simp⟩
    rw [jobProblem_append clean, jobProblem_cons]
    rcases fault with ⟨empty, rfl⟩ | ⟨named', taken, rfl⟩
    · simp [empty]
    · simp [named', taken]

/-- With no id seen yet, a list of jobs has no problem exactly when it has one job per id. -/
theorem jobProblem_nil_eq_none_iff (js : List Job) :
    jobProblem mode js [] = none ↔ OneJobPerId js := by
  simp [jobProblem_eq_none_iff, OneJobPerId]

end Walk

/-- The check, with the fault of each mode spelled through its walk. -/
theorem problem_eq (a : Agent) :
    a.problem =
      if a.reportPeriodSeconds = some 0 then some "aggregationReportPeriodSeconds must be positive"
      else if a.windowSeconds = some 0 then some "aggregationTimeWindowSeconds must be positive"
      else (a.hostNetwork.bind fun n => jobProblem "hostNetwork" n.jobs []).or
        (a.podNetwork.bind fun n => jobProblem "podNetwork" n.jobs []) := by
  unfold problem
  split_ifs
  · rfl
  · rfl
  · cases a.hostNetwork <;> cases a.podNetwork <;> rfl

/-- The walk over a mode that may be unset finds nothing exactly when the mode, if set, keeps
one job per id. -/
theorem bind_jobProblem_eq_none_iff (mode : String) (net : Option Network) :
    (net.bind fun n => jobProblem mode n.jobs []) = none ↔ ∀ n ∈ net, OneJobPerId n.jobs := by
  cases net with
  | none => simp
  | some n => simp [jobProblem_nil_eq_none_iff]

/-- A network found gives a problem exactly when its jobs' first fault is that problem. -/
theorem bind_jobProblem_eq_some_iff (mode : String) (net : Option Network) (m : String) :
    (net.bind fun n => jobProblem mode n.jobs []) = some m ↔
      ∃ n ∈ net, FirstJobFault mode n.jobs m := by
  cases net with
  | none => simp
  | some n => simp [jobProblem_eq_some_iff]

end Agent

/-- The settings check accepts exactly the settings that keep one job per id in each mode, with
a report period and a window that are not zero. Otherwise it reports the first fault, in the
order report period, window, the host network's jobs, the pod network's jobs. Loading a file
gives only settings the check accepts. -/
theorem settings_check_reports_first_fault (a : Agent) :
    (a.problem = none ↔
      a.reportPeriodSeconds ≠ some 0 ∧ a.windowSeconds ≠ some 0 ∧
        (∀ n ∈ a.hostNetwork, OneJobPerId n.jobs) ∧ (∀ n ∈ a.podNetwork, OneJobPerId n.jobs)) ∧
    (∀ m, a.problem = some m ↔
      a.reportPeriodSeconds = some 0 ∧ m = "aggregationReportPeriodSeconds must be positive" ∨
      a.reportPeriodSeconds ≠ some 0 ∧ a.windowSeconds = some 0 ∧
        m = "aggregationTimeWindowSeconds must be positive" ∨
      a.reportPeriodSeconds ≠ some 0 ∧ a.windowSeconds ≠ some 0 ∧
        ((∃ n ∈ a.hostNetwork, FirstJobFault "hostNetwork" n.jobs m) ∨
          (∀ n ∈ a.hostNetwork, OneJobPerId n.jobs) ∧
            ∃ n ∈ a.podNetwork, FirstJobFault "podNetwork" n.jobs m)) ∧
    (∀ v path, Agent.load v path = .ok a → a.problem = none) := by
  have host := Agent.bind_jobProblem_eq_none_iff "hostNetwork" a.hostNetwork
  have pod := Agent.bind_jobProblem_eq_none_iff "podNetwork" a.podNetwork
  refine ⟨?_, fun m => ?_, fun v path loaded => ?_⟩
  · rw [Agent.problem_eq]
    split_ifs with period window
    · simp [period]
    · simp [window]
    · rw [Option.or_eq_none_iff, host, pod]
      simp [period, window]
  · rw [Agent.problem_eq]
    split_ifs with period window
    · simp [period, eq_comm]
    · simp [period, window, eq_comm]
    · -- past the two periods, the host network's fault comes first
      rw [Option.or_eq_some_iff, Agent.bind_jobProblem_eq_some_iff, host,
        Agent.bind_jobProblem_eq_some_iff]
      simp [period, window]
  · -- a loaded file was decoded and then passed the check
    unfold Agent.load at loaded
    obtain ⟨text, -, decoded⟩ := Except.bind_eq_ok_iff.1 loaded
    unfold Agent.ofText at decoded
    split at decoded
    · cases decoded
    · split at decoded
      · cases decoded
      · rename_i passed
        cases decoded
        exact passed

end Reachability.Config
