import Sentry.Behavior.Frame
import Sentry.Behavior.Preempt
import Sentry.Behavior.Route
import Sentry.Spacing

/-!
# The rate of the goals

Each of the two nodes `PubNav2Goal` reads the clock before it publishes again, and it records
the time of a publication by another reading (`stamp`). If the clock never goes back, the
recorded times of a node are spaced by its `min_pub_interval_ms`, over all iterations and
changes of branch (`State.run_paces`). The nodes do not know of one another, so the rate at
which goals are published is bounded by that of two nodes (`goals_rate`).
-/

namespace Sentry.Behavior

open BehaviorTree (Status Node)
open BehaviorTree.Node
open Sentry.Talker (SerialReceiveData)
open Spacing (Spaced)
open Transition (Run)

/-- The least time between two publications of a node, in nanoseconds. -/
def minPubInterval : ℤ := minPubIntervalMs * 1000000

/-- The clock never goes back. -/
def Env.Steady (env : Env) : Prop := ∀ i j, i ≤ j → env.now i ≤ env.now j

/-- The time that a visit records for a publication of the node of a branch. -/
def stamp (env : Env) (branch : Branch) : Leaf × World → Option ℤ
  | (.pubNav2Goal branch', w) =>
    if branch' = branch ∧ (published env (.pubNav2Goal branch', w)).isSome then
      some (env.now (if (w.pubs branch).lastPublishTime.isSome then w.clockReads + 1
        else w.clockReads))
    else none
  | _ => none

/-- The times recorded for the node of a branch in some visits. -/
def stamps (env : Env) (branch : Branch) (visits : List (Leaf × World)) : List ℤ :=
  visits.filterMap (stamp env branch)

/-- From one world to another, the times of a branch are spaced, also from the last time before,
    and they are read from the clock in between. -/
structure Paces (env : Env) (branch : Branch) (w : World) (visits : List (Leaf × World))
    (w' : World) : Prop where
  spaced : Spaced minPubInterval ((w.pubs branch).lastPublishTime.toList ++
    stamps env branch visits)
  last : (w'.pubs branch).lastPublishTime =
    (stamps env branch visits).getLast?.or (w.pubs branch).lastPublishTime
  reads : w.clockReads ≤ w'.clockReads
  times : ∀ t ∈ stamps env branch visits, env.now w.clockReads ≤ t ∧ t ≤ env.now w'.clockReads

section

variable {env : Env} {branch : Branch} {w w' w'' : World} {visits visits' : List (Leaf × World)}

/-- Visits that publish nothing keep the pace. -/
theorem Paces.quiet (hstamps : stamps env branch visits = [])
    (hpubs : w'.pubs branch = w.pubs branch) (hreads : w.clockReads ≤ w'.clockReads) :
    Paces env branch w visits w' := by
  refine ⟨?_, ?_, hreads, by simp [hstamps]⟩
  · rw [hstamps]
    cases (w.pubs branch).lastPublishTime <;> simp [Spaced]
  · rw [hstamps, hpubs]
    rfl

/-- The pace is kept from one part of a run to the next. -/
theorem Paces.trans (hnow : env.Steady) (h : Paces env branch w visits w')
    (h' : Paces env branch w' visits' w'') : Paces env branch w (visits ++ visits') w'' := by
  have hstamps : stamps env branch (visits ++ visits') =
      stamps env branch visits ++ stamps env branch visits' := List.filterMap_append
  obtain ⟨hspaced, hlast, hreads, htimes⟩ := h
  obtain ⟨hspaced', hlast', hreads', htimes'⟩ := h'
  refine ⟨?_, ?_, hreads.trans hreads', ?_⟩
  · have hjoint : ((w.pubs branch).lastPublishTime.toList ++ stamps env branch visits).getLast? =
        (w'.pubs branch).lastPublishTime := by
      rw [hlast, List.getLast?_append]
      cases (w.pubs branch).lastPublishTime <;> rfl
    rw [hstamps, ← List.append_assoc]
    exact hspaced.append (hjoint ▸ hspaced')
  · rw [hstamps, List.getLast?_append, hlast', hlast, Option.or_assoc]
  · intro t ht
    rw [hstamps] at ht
    rcases List.mem_append.1 ht with ht | ht
    · exact ⟨(htimes t ht).1, (htimes t ht).2.trans (hnow _ _ hreads')⟩
    · exact ⟨(hnow _ _ hreads).trans (htimes' t ht).1, (htimes' t ht).2⟩

/-- A node that is not throttled was last published long enough ago. -/
theorem le_of_not_throttled {t : ℤ} (hlast : (w.pubs branch).lastPublishTime = some t)
    (h : ¬w.throttled env branch) : t + minPubInterval ≤ env.now w.clockReads := by
  have hms : 500 ≤ (env.now w.clockReads - t).tdiv 1000000 := by
    refine not_lt.1 fun hlt => h ?_
    rw [World.throttled, hlast]
    exact decide_eq_true hlt
  have hpos : 0 ≤ env.now w.clockReads - t := by
    by_contra hneg
    have hle := Int.tdiv_le_tdiv (by decide : (0 : ℤ) < 1000000) (not_le.1 hneg).le
    rw [Int.zero_tdiv] at hle
    omega
  have hmul : 1000000 * (env.now w.clockReads - t).tdiv 1000000 ≤ env.now w.clockReads - t :=
    Int.mul_tdiv_self_le hpos
  rw [minPubInterval, minPubIntervalMs]
  omega

/-- Ticking the node of a branch keeps the pace of the branch. -/
theorem paces_pubNav2Goal (hnow : env.Steady) (branch : Branch) (w : World) :
    Paces env branch w [(.pubNav2Goal branch, w)] (w.pubNav2Goal env branch).2 := by
  have hreads : w.clockReads ≤ (w.pubNav2Goal env branch).2.clockReads :=
    (tick_frame env (.pubNav2Goal branch) .idle w).clockReads
  by_cases hthrottled : w.throttled env branch
  · refine .quiet (by simp [stamps, stamp, published, hthrottled]) ?_ hreads
    simp [World.pubNav2Goal, hthrottled]
  cases hmsg : w.setMessage branch with
  | none =>
    refine .quiet (by simp [stamps, stamp, published, hmsg]) ?_ hreads
    simp [World.pubNav2Goal, hthrottled, hmsg]
  | some msg =>
    cases hlast : (w.pubs branch).lastPublishTime with
    | none =>
      have hstamps : stamps env branch [(.pubNav2Goal branch, w)] = [env.now w.clockReads] := by
        simp [stamps, stamp, published, hthrottled, hmsg, hlast]
      refine ⟨?_, ?_, ?_, ?_⟩
      · simp [hstamps, hlast, Spaced]
      · simp [hstamps, World.pubNav2Goal, hthrottled, hmsg, hlast]
      · simp [World.pubNav2Goal, hthrottled, hmsg, hlast]
      · simp [hstamps, World.pubNav2Goal, hthrottled, hmsg, hlast, hnow _ _ (Nat.le_succ _)]
    | some t =>
      have hstamps : stamps env branch [(.pubNav2Goal branch, w)] =
          [env.now (w.clockReads + 1)] := by
        simp [stamps, stamp, published, hthrottled, hmsg, hlast]
      have hle := (le_of_not_throttled hlast hthrottled).trans (hnow _ _ (Nat.le_succ _))
      refine ⟨?_, ?_, ?_, ?_⟩
      · simpa [hstamps, hlast, Spaced] using hle
      · simp [hstamps, World.pubNav2Goal, hthrottled, hmsg, hlast]
      · simp [World.pubNav2Goal, hthrottled, hmsg, hlast, Nat.add_assoc]
      · simp [hstamps, World.pubNav2Goal, hthrottled, hmsg, hlast, hnow _ _ (Nat.le_succ _)]

/-- Ticking a leaf keeps the pace of a branch. -/
theorem tick_paces (hnow : env.Steady) (branch : Branch) (l : Leaf) (status : Status)
    (w : World) : Paces env branch w [(l, w)] ((sem env l).tick status w).2 := by
  have hframe := tick_frame env l status w
  by_cases hpub : ∃ branch', l = .pubNav2Goal branch'
  · obtain ⟨branch', rfl⟩ := hpub
    by_cases hbranch : branch' = branch
    · rw [hbranch]
      exact paces_pubNav2Goal hnow branch w
    · refine .quiet (by simp [stamps, stamp, hbranch]) ?_ hframe.clockReads
      simp only [sem, BehaviorTree.Leaf.sync, World.pubNav2Goal]
      split
      · rfl
      · split
        · rfl
        · exact Function.update_of_ne (Ne.symm hbranch) _ _
  · refine .quiet ?_ (congrFun (hframe.pubs (not_exists.1 hpub)) branch) hframe.clockReads
    cases l with
    | pubNav2Goal branch' => exact absurd ⟨branch', rfl⟩ hpub
    | _ => rfl

/-- The visits of leaves one after the other keep the pace. -/
theorem run_paces (hnow : env.Steady) (branch : Branch)
    (h : Run (LeafStep (sem env)) w visits w') : Paces env branch w visits w' := by
  induction h with
  | nil w => exact .quiet rfl rfl le_rfl
  | cons hstep _ ih =>
    obtain ⟨l, status, rfl, rfl⟩ := hstep
    exact (tick_paces hnow branch l status _).trans hnow ih

end

/-- Iterations keep the pace, whatever messages come. -/
theorem State.run_paces {env : Env} (hnow : env.Steady) (branch : Branch) (s : State)
    (inputs : List (List SerialReceiveData)) :
    Paces env branch s.world (s.run env inputs).1 (s.run env inputs).2.world := by
  induction inputs generalizing s with
  | nil => exact .quiet rfl rfl le_rfl
  | cons msgs inputs ih =>
    have hpaces := Behavior.run_paces hnow branch (s.iterate_run env msgs)
    rw [World.deliver_eq] at hpaces
    have hiter : Paces env branch s.world (s.iterate env msgs).1 (s.iterate env msgs).2.world :=
      ⟨hpaces.spaced, hpaces.last, hpaces.reads, hpaces.times⟩
    exact hiter.trans hnow (ih _)

/-- Iterations publish their poses. -/
theorem State.run_goalPoses (env : Env) (s : State) (inputs : List (List SerialReceiveData)) :
    (s.run env inputs).2.world.goalPoses =
      s.world.goalPoses ++ (s.run env inputs).1.filterMap (published env) := by
  induction inputs generalizing s with
  | nil => exact (List.append_nil _).symm
  | cons msgs inputs ih =>
    have hposes := Behavior.run_goalPoses (s.iterate_run env msgs)
    rw [World.deliver_eq] at hposes
    rw [State.run, ih, hposes, List.filterMap_append, List.append_assoc]

/-- Every pose was published by one of the two nodes. -/
theorem length_published (env : Env) (visits : List (Leaf × World)) :
    (visits.filterMap (published env)).length =
      (stamps env .home visits).length + (stamps env .patrol visits).length := by
  induction visits with
  | nil => rfl
  | cons visit visits ih =>
    obtain ⟨l, w⟩ := visit
    cases hmsg : published env (l, w) with
    | none =>
      have hstamp : ∀ branch, stamp env branch (l, w) = none := by
        intro branch
        cases l <;> simp [stamp, hmsg]
      simpa [stamps, hmsg, hstamp] using ih
    | some msg =>
      cases l with
      | pubNav2Goal branch =>
        cases branch <;> simp [stamps, stamp, hmsg] at ih ⊢ <;> omega
      | _ => simp [published] at hmsg

/-- The times of one node that are recorded in an interval are few. -/
theorem Paces.length_le {env : Env} (hnow : env.Steady) {branch : Branch} {w w' : World}
    {visits : List (Leaf × World)} (h : Paces env branch w visits w') :
    ((stamps env branch visits).length : ℤ) ≤
      (env.now w'.clockReads - env.now w.clockReads) / minPubInterval + 1 := by
  have hpos : (0 : ℤ) < minPubInterval := by decide
  have hle := hnow _ _ h.reads
  have hspaced := h.spaced.right
  cases htimes : stamps env branch visits with
  | nil =>
    have hdiv := Int.ediv_nonneg (sub_nonneg.2 hle) hpos.le
    rw [List.length_nil, Nat.cast_zero]
    omega
  | cons t times =>
    have hall := htimes ▸ h.times
    have hroom := (htimes ▸ hspaced).length_nsmul_le fun t' ht' => (hall t' ht').2
    have hfirst := (hall t List.mem_cons_self).1
    rw [nsmul_eq_mul] at hroom
    rw [List.length_cons, Nat.cast_succ]
    refine add_le_add_left ((Int.le_ediv_iff_mul_le hpos).2 (hroom.trans ?_)) 1
    omega

/-- While a clock that never goes back goes on by some time, no more goals are published than
    by two nodes that each keep their interval. -/
theorem goals_rate {env : Env} (hnow : env.Steady) (homePosition : PoseStamped)
    (zoneModeTopic frontPatrolCsv : String) (inputs inputs' : List (List SerialReceiveData)) :
    let before := ((State.init homePosition zoneModeTopic frontPatrolCsv).run env inputs).2
    let after := (before.run env inputs').2
    ∃ poses, after.world.goalPoses = before.world.goalPoses ++ poses ∧
      (poses.length : ℤ) ≤ 2 * ((env.now after.world.clockReads -
        env.now before.world.clockReads) / minPubInterval + 1) := by
  intro before after
  refine ⟨_, State.run_goalPoses env before inputs', ?_⟩
  have hhome := (State.run_paces hnow .home before inputs').length_le hnow
  have hpatrol := (State.run_paces hnow .patrol before inputs').length_le hnow
  rw [length_published, Nat.cast_add, two_mul]
  exact add_le_add hhome hpatrol

/-- A clock with a millisecond between its readings, and two changes of branch. -/
theorem goals_rate_switch :
    let before := ((State.init ⟨"map", ⟨⟨0, 0, 0⟩, ⟨0, 0, 0, 1⟩⟩⟩ "" "").run twoEnv
      [[{ hp := 200 }]]).2
    let after := (before.run twoEnv [[{ hp := 400 }], [{ hp := 200 }]]).2
    ∃ poses, after.world.goalPoses = before.world.goalPoses ++ poses ∧
      (poses.length : ℤ) ≤ 2 * ((twoEnv.now after.world.clockReads -
        twoEnv.now before.world.clockReads) / minPubInterval + 1) := by
  refine goals_rate (fun i j hij => ?_) _ _ _ _ _
  simp only [twoEnv]
  omega

end Sentry.Behavior
