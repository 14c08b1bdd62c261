/-
# What finding something out takes

A query leaves a trail of lookups, questions and events. The events aside, a trail
amounts to an effort, which is the variables that were looked up and the questions that
were put to a probe. Here the effort of a selection and of its facts is worked out from
the environment alone. Most of it is a fixed list of variables. Only the user's own
setting and the chain of platforms cut it short.
-/

import Tasking.Proofs.Probe.Course

namespace Tasking

/-- What it took to find something out, each thing in the order in which it was done. -/
structure Effort where
  /-- The names of the variables that were looked up. -/
  lookups : List String := []
  /-- The questions that were put to a probe that answers by itself. -/
  requests : List Request := []
  deriving DecidableEq, Repr

namespace Effort

/-- The effort that a trail tells of. -/
def ofTrail (trail : List Observation) : Effort where
  lookups := (trail.filterMap Observation.setting?).map Setting.name
  requests := trail.filterMap Observation.request?

/-- One effort after another. -/
def andThen (first second : Effort) : Effort where
  lookups := first.lookups ++ second.lookups
  requests := first.requests ++ second.requests

@[simp]
theorem andThen_nothing (effort : Effort) : effort.andThen {} = effort := by
  rw [andThen, List.append_nil, List.append_nil]

theorem ofTrail_append (first second : List Observation) :
    ofTrail (first ++ second) = (ofTrail first).andThen (ofTrail second) := by
  simp only [ofTrail, andThen, List.filterMap_append, List.map_append]

theorem ofTrail_map_lookedUp (settings : List Setting) :
    ofTrail (settings.map .lookedUp) = { lookups := settings.map Setting.name } := by
  induction settings with
  | nil => rfl
  | cons setting rest ih =>
      exact congrArg (fun effort => andThen { lookups := [setting.name] } effort) ih

/-- Events are no effort. -/
theorem ofTrail_unreported (trail : List Observation) :
    ofTrail (Selector.unreported trail) = ofTrail trail := by
  induction trail with
  | nil => rfl
  | cons observation rest ih =>
      cases observation with
      | lookedUp setting =>
          exact congrArg (fun effort => andThen { lookups := [setting.name] } effort) ih
      | asked request =>
          exact congrArg (fun effort => andThen { requests := [request] } effort) ih
      | reported event => exact ih

end Effort

namespace Environment

/-- The variable is there, and its text is not empty. -/
def holds (environment : Environment String) (name : String) : Bool :=
  (present (environment.get? name)).isSome

/-- The variables that may name the platform, up to the first that is there. -/
def platformLookups (environment : Environment String) : List String :=
  let chain := ["CHPL_TARGET_PLATFORM", "CHPL_HOST_PLATFORM", "CHPL_PLATFORM"]
  chain.take (chain.findIdx environment.holds + 1)

end Environment

namespace ProbeKind

/-- The effort of gathering the facts. -/
def factEffort (environment : Environment String) : ProbeKind → Effort
  | .settings =>
      { lookups := "CHPL_TARGET_ARCH" :: (environment.platformLookups ++
          ["CHPL_TARGET_COMPILER", "CHPL_HOME", "CHPL_MODULE_HOME"]) }
  | .given =>
      { requests := [.arch .target true, .platform .target, .compiler .target, .vendorModule] }

/-- The effort of a selection. The facts are gathered only where the user has not decided. -/
def selectionEffort (environment : Environment String) (kind : ProbeKind) : Effort :=
  if environment.holds "CHPL_TASKS" then { lookups := ["CHPL_TASKS"] }
  else .andThen { lookups := ["CHPL_TASKS"] } (kind.factEffort environment)

end ProbeKind

namespace Probe

/-- The chain of platforms is followed up to the first setting that is present. -/
theorem trail_platform_target (source : Source) :
    (ofSettings.platform .target).trail source =
      (([.platform .target, .platform .host, .anyPlatform] : List Setting).take
        (([.platform .target, .platform .host, .anyPlatform] : List Setting).findIdx
          (fun setting => (present (source setting)).isSome) + 1)).map .lookedUp := by
  change targetPlatform.trail source = _
  rw [targetPlatform, Query.trail_bind, Query.value_setting, Query.trail_setting, List.findIdx_cons]
  cases present (source (.platform .target)) with
  | some platform => rfl
  | none =>
      change [Observation.lookedUp (.platform .target)] ++ hostPlatform.trail source = _
      rw [hostPlatform, Query.trail_bind, Query.value_setting, Query.trail_setting,
        List.findIdx_cons]
      cases present (source (.platform .host)) with
      | some platform => rfl
      | none =>
          rw [List.findIdx_cons]
          cases (present (source .anyPlatform)).isSome with
          | true => rfl
          | false => rfl

theorem trail_targetFacts (probe : Probe) (source : Source) :
    probe.targetFacts.trail source =
      (probe.arch .target true).trail source ++ ((probe.platform .target).trail source ++
        ((probe.compiler .target).trail source ++ probe.vendorModule.trail source)) := by
  simp only [targetFacts, Query.trail_bind, Query.pure_eq_done, Query.trail_done, List.append_nil]

/-- The user's own setting is looked up first, and where it is present nothing else is. -/
theorem trail_select (probe : Probe) (source : Source) :
    probe.select.trail source =
      .lookedUp .tasks :: match present (source .tasks) with
        | some text => [.reported (.overrideTaken text)]
        | none => probe.targetFacts.trail source ++
            [.reported (.decided (probe.targetFacts.value source))] := by
  rw [select, Query.trail_bind, overrideText, Query.value_setting, Query.trail_setting]
  cases present (source .tasks) with
  | some text => rfl
  | none =>
      simp only [Query.trail_bind, Query.trail_reporting, Query.pure_eq_done, Query.trail_done,
        List.append_nil, List.cons_append, List.nil_append]

end Probe

namespace ProbeKind

open Effort

theorem ofTrail_platform (environment : Environment String) :
    ofTrail ((Probe.ofSettings.platform .target).trail environment.source) =
      { lookups := environment.platformLookups } := by
  rw [Probe.trail_platform_target, ofTrail_map_lookedUp, List.map_take]
  have chained := List.findIdx_map ([.platform .target, .platform .host, .anyPlatform] : List Setting)
    Setting.name environment.holds
  exact congrArg (fun length => Effort.mk (List.take (length + 1) _) []) chained.symm

theorem ofTrail_targetFacts (kind : ProbeKind) (facts : Facts) (environment : Environment String) :
    ofTrail ((kind.probe facts).targetFacts.trail environment.source) =
      kind.factEffort environment := by
  cases kind with
  | given => rfl
  | settings =>
      change ofTrail (Probe.ofSettings.targetFacts.trail environment.source) = _
      rw [Probe.trail_targetFacts, ofTrail_append, ofTrail_append, ofTrail_platform]
      rfl

theorem ofTrail_select (kind : ProbeKind) (facts : Facts) (environment : Environment String) :
    ofTrail ((kind.probe facts).select.trail environment.source) =
      kind.selectionEffort environment := by
  rw [Probe.trail_select, selectionEffort]
  cases given : present (environment.source .tasks) with
  | some text =>
      have holds : environment.holds "CHPL_TASKS" = true := congrArg Option.isSome given
      rw [if_pos holds]
      rfl
  | none =>
      have misses : ¬ environment.holds "CHPL_TASKS" = true := by
        have absent : environment.holds "CHPL_TASKS" = false := congrArg Option.isSome given
        rw [absent]
        exact Bool.false_ne_true
      change ofTrail ([.lookedUp .tasks] ++ (_ ++ [.reported _])) = _
      rw [if_neg misses, ofTrail_append, ofTrail_append, ofTrail_targetFacts]
      exact congrArg (Effort.andThen { lookups := ["CHPL_TASKS"] }) (Effort.andThen_nothing _)

/-- No selection looks a variable up twice, or puts a question twice. -/
theorem nodup_selectionEffort (kind : ProbeKind) (environment : Environment String) :
    (kind.selectionEffort environment).lookups.Nodup ∧
      (kind.selectionEffort environment).requests.Nodup := by
  constructor
  · rw [← kind.ofTrail_select .unknown environment]
    have within := (kind.looksUpInOrder_select .unknown).sublist_trail environment.source
    exact (within.map Setting.name).nodup Probe.nodup_names
  · rw [selectionEffort]
    cases environment.holds "CHPL_TASKS" with
    | true => exact List.nodup_nil
    | false =>
        cases kind with
        | settings => exact List.nodup_nil
        | given =>
            change [Request.arch .target true, .platform .target, .compiler .target,
              .vendorModule].Nodup
            decide

end ProbeKind

end Tasking
