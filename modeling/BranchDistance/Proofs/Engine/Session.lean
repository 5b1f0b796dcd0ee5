import BranchDistance.Engine
import BranchDistance.Proofs.Cache

/-!
# Sessions

In a session an engine calculates, reports, and forgets.  Its configuration and its observer stay
what they are (`Engine.config_after`, `Engine.observer_after`), its counters record what all its
calculations tell (`Engine.counters_after`), and what it keeps are targets of the texts that it has
calculated (`Engine.target?_after`).
-/

namespace BranchDistance

/-- What is done with an engine in a session. -/
inductive Action where
  | calculate (driver : Driver) (text : String) (rows : Option (List Row))
  | report
  | clearCache
  | reset

namespace Engine

/-! ### Lookups -/

theorem target?_of_keeps {engine : Engine} (h : engine.config.keepTargets = true)
    (text : String) :
    engine.target? text =
      ((engine.cache.lookup text).1.result.map (·.target),
        some (if (engine.cache.lookup text).1.isHit then .cacheHit else .cacheMiss),
        (engine.cache.lookup text).2) := by
  unfold target?
  rw [if_pos h]

theorem target?_of_not_keeps {engine : Engine} (h : ¬ engine.config.keepTargets = true)
    (text : String) :
    engine.target? text = (Target.ofText? text, none, engine.cache) := by
  unfold target?
  rw [if_neg h]

/-! ### Actions -/

/-- The engine after an action. -/
def perform (engine : Engine) : Action → Engine
  | .calculate driver text rows => (engine.calculate driver text rows).engine
  | .report => engine
  | .clearCache => engine.clearCache
  | .reset => engine.reset

/-- The engine after several actions. -/
def after (engine : Engine) (actions : List Action) : Engine := actions.foldl perform engine

/-- What the calculations among some actions give. -/
def calculations (engine : Engine) : List Action → List Calculation
  | [] => []
  | action :: rest =>
    let later := (engine.perform action).calculations rest
    match action with
    | .calculate driver text rows => engine.calculate driver text rows :: later
    | .report => later
    | .clearCache => later
    | .reset => later

@[simp] theorem after_nil (engine : Engine) : engine.after [] = engine := rfl

@[simp] theorem after_cons (engine : Engine) (action : Action) (rest : List Action) :
    engine.after (action :: rest) = (engine.perform action).after rest := rfl

@[simp] theorem config_perform (engine : Engine) (action : Action) :
    (engine.perform action).config = engine.config := by
  cases action <;> rfl

@[simp] theorem observer_perform (engine : Engine) (action : Action) :
    (engine.perform action).observer = engine.observer := by
  cases action <;> rfl

@[simp] theorem config_after (engine : Engine) (actions : List Action) :
    (engine.after actions).config = engine.config := by
  induction actions generalizing engine with
  | nil => rfl
  | cons action rest ih => rw [after_cons, ih, config_perform]

@[simp] theorem observer_after (engine : Engine) (actions : List Action) :
    (engine.after actions).observer = engine.observer := by
  induction actions generalizing engine with
  | nil => rfl
  | cons action rest ih => rw [after_cons, ih, observer_perform]

/-- What holds of every calculation of an engine that is configured and observed in the same way
holds of those in a session. -/
theorem forall_calculations {engine : Engine} {P : Calculation → Prop}
    (h : ∀ e : Engine, e.config = engine.config → e.observer = engine.observer →
      ∀ driver text rows, P (e.calculate driver text rows)) (actions : List Action) :
    ∀ c ∈ engine.calculations actions, P c := by
  suffices ∀ e : Engine, e.config = engine.config → e.observer = engine.observer →
      ∀ c ∈ e.calculations actions, P c from this engine rfl rfl
  intro e hconfig hobserver
  induction actions generalizing e with
  | nil => simp [calculations]
  | cons action rest ih =>
    have hrest := ih (e.perform action) ((config_perform e action).trans hconfig)
      ((observer_perform e action).trans hobserver)
    cases action with
    | calculate driver text rows =>
      exact List.forall_mem_cons.2 ⟨h e hconfig hobserver driver text rows, hrest⟩
    | report => exact hrest
    | clearCache => exact hrest
    | reset => exact hrest

/-- The counters record the events of all calculations, one after the other. -/
theorem counters_after (engine : Engine) (actions : List Action) :
    (engine.after actions).counters =
      engine.counters.recordAll ((engine.calculations actions).flatMap (·.trace.events)) := by
  induction actions generalizing engine with
  | nil => rfl
  | cons action rest ih =>
    rw [after_cons, ih]
    cases action with
    | calculate driver text rows =>
      exact (List.foldl_append ..).symm
    | report => rfl
    | clearCache => rfl
    | reset => rfl

end Engine

/-! ### What is kept -/

/-- The text that an action calculates. -/
def Action.text? : Action → Option String
  | .calculate _ text _ => some text
  | .report => none
  | .clearCache => none
  | .reset => none

/-- What an action does with the cache. -/
def Action.uses (keeps : Bool) : Action → List Cache.Use
  | .calculate _ text _ => if keeps then [.lookup text] else []
  | .report => []
  | .clearCache => [.clear]
  | .reset => [.clear]

/-- Only the texts that are calculated are looked up. -/
theorem Action.mem_text?_of_uses {keeps : Bool} {actions : List Action} {text : String}
    (h : text ∈ (actions.flatMap (uses keeps)).filterMap Cache.Use.text?) :
    text ∈ actions.filterMap text? := by
  obtain ⟨use, huse, htext⟩ := List.mem_filterMap.1 h
  obtain ⟨action, haction, huse⟩ := List.mem_flatMap.1 huse
  refine List.mem_filterMap.2 ⟨action, haction, ?_⟩
  cases action with
  | calculate driver text' rows =>
    cases keeps with
    | false => cases huse
    | true =>
      obtain rfl := List.mem_singleton.1 huse
      exact htext
  | report => cases huse
  | clearCache | reset =>
    obtain rfl := List.mem_singleton.1 huse
    cases htext

namespace Engine

theorem cache_perform (engine : Engine) (action : Action) :
    (engine.perform action).cache = engine.cache.after (action.uses engine.config.keepTargets) := by
  cases action with
  | calculate driver text rows =>
    change (engine.target? text).2.2 = engine.cache.after (if _ then _ else _)
    by_cases h : engine.config.keepTargets = true
    · rw [target?_of_keeps h, if_pos h]
      rfl
    · rw [target?_of_not_keeps h, if_neg h]
      rfl
  | report | clearCache | reset => rfl

/-- The cache of a session. -/
theorem cache_after (engine : Engine) (actions : List Action) :
    (engine.after actions).cache =
      engine.cache.after (actions.flatMap (Action.uses engine.config.keepTargets)) := by
  induction actions generalizing engine with
  | nil => rfl
  | cons action rest ih =>
    rw [after_cons, ih, config_perform, cache_perform, List.flatMap_cons, Cache.after_append]

/-- The target of a text does not depend on the session. -/
theorem target?_after {engine : Engine} (hcache : engine.cache = .empty) (actions : List Action)
    {text : String}
    (hfree : Fingerprint.CollisionFree (text :: actions.filterMap Action.text?)) :
    ((engine.after actions).target? text).1 = Target.ofText? text := by
  by_cases h : (engine.after actions).config.keepTargets = true
  · rw [target?_of_keeps h, cache_after, hcache]
    have hholds : (Cache.empty.after (actions.flatMap
        (Action.uses engine.config.keepTargets))).Holds (text :: actions.filterMap Action.text?) :=
      (Cache.holds_empty _).after fun t ht =>
        List.mem_cons_of_mem text (Action.mem_text?_of_uses ht)
    exact Cache.map_lookup hholds List.mem_cons_self hfree
  · rw [target?_of_not_keeps h]

end Engine

end BranchDistance
