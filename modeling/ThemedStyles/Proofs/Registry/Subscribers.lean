import Mathlib.Data.Set.Card
import ThemedStyles.Proofs.Registry.ThemeMap
import ThemedStyles.Proofs.Runs

namespace ThemedStyles

/-!
# Subscribers of a registry

A registry tells its live subscriptions about every change of the active name.
This module says who is told what by the history of the calls alone.  A subscription
is live if its call is in the history and no later call ends it, and its number is
the number of the subscriptions before it.  So numbers never come again, and the live
subscriptions stand in the registry in the order of their numbers, each once.

What one subscriber hears from its first to its last moment is therefore the list of
the names that became active in between, without those that were active already.
Registering, editing and loading themes does not matter to any of this, whether it
succeeds or fails.
-/

namespace Registry

/-- A call on a registry, or a theme document that it is given. -/
inductive Step : Type 1 where
  | call (call : Call)
  | load (source : DocumentSource)

namespace Step

/-- The name that a step makes active. -/
def activates? : Step -> Option String
  | .call (.activate name) => some name
  | _ => none

def subscribes : Step -> Bool
  | .call (.subscribe _) => true
  | _ => false

end Step

/-- The registry after a step.  A document that fails may leave themes behind. -/
def take (registry : Registry) : Step -> Registry
  | .call call => registry.perform call
  | .load source => (registry.registerFrom source).1

/-- The registry after steps, the first of them first. -/
def follow (registry : Registry) (steps : List Step) : Registry := steps.foldl take registry

def notices (registry : Registry) : Step -> List Notice
  | .call (.activate name) => (registry.activate name).2.2
  | _ => []

/-- The notices of a step, each with the number of the subscription at its place. -/
def posts (registry : Registry) (step : Step) : List (Nat × Notice) :=
  (registry.subscriptions.map Subscription.id).zip (registry.notices step)

/-! ## Histories -/

/-- How many subscriptions there have been. -/
def issued (steps : List Step) : Nat := steps.countP Step.subscribes

/-- The names that were made active, whether or not they were active before. -/
def named (steps : List Step) : List String := steps.filterMap Step.activates?

/-- The subscription was made, as the one with its number, and was not ended later. -/
def Live (steps : List Step) (subscription : Subscription) : Prop :=
  ∃ before after, steps = before ++ .call (.subscribe subscription.listener) :: after ∧
    issued before = subscription.id ∧ .call (.unsubscribe subscription.id) ∉ after

theorem issued_append (first rest : List Step) :
    issued (first ++ rest) = issued first + issued rest :=
  List.countP_append

theorem not_live_nil (subscription : Subscription) : ¬ Live [] subscription := by
  rintro ⟨before, after, split, _⟩
  simp at split

theorem live_append_singleton (steps : List Step) (step : Step) (subscription : Subscription) :
    Live (steps ++ [step]) subscription ↔
      (step = .call (.subscribe subscription.listener) ∧ issued steps = subscription.id) ∨
        (Live steps subscription ∧ step ≠ .call (.unsubscribe subscription.id)) := by
  constructor
  · rintro ⟨before, after, split, number, kept⟩
    rcases Runs.split_append_singleton split with ⟨rfl, last, _⟩ | ⟨rest, past, rfl⟩
    · exact Or.inl ⟨last, number⟩
    · rw [List.mem_append, List.mem_singleton, not_or] at kept
      exact Or.inr ⟨⟨before, rest, past, number, kept.1⟩, Ne.symm kept.2⟩
  · rintro (⟨rfl, number⟩ | ⟨⟨before, after, rfl, number, kept⟩, spared⟩)
    · exact ⟨steps, [], rfl, number, List.not_mem_nil⟩
    · refine ⟨before, after ++ [step], by simp, number, ?_⟩
      rw [List.mem_append, List.mem_singleton, not_or]
      exact ⟨kept, Ne.symm spared⟩

theorem issued_append_subscribe (before : List Step) (listener : String) (during : List Step) :
    issued (before ++ .call (.subscribe listener) :: during) =
      issued before + issued during + 1 := by
  have here : issued (.call (.subscribe listener) :: during) = issued during + 1 :=
    List.countP_cons_of_pos rfl
  rw [issued_append, here, Nat.add_assoc]

/-- Numbers are issued in order. -/
theorem Live.id_lt {steps : List Step} {subscription : Subscription}
    (live : Live steps subscription) : subscription.id < issued steps := by
  rcases live with ⟨before, after, rfl, number, _⟩
  rw [issued_append_subscribe, number]
  omega

/-- A number stands for the subscription that was made when it was issued, until a call
ends that one. -/
theorem live_since (before : List Step) (listener other : String) (during : List Step) :
    Live (before ++ .call (.subscribe listener) :: during) ⟨issued before, other⟩ ↔
      other = listener ∧ .call (.unsubscribe (issued before)) ∉ during := by
  induction during using List.reverseRecOn with
  | nil =>
      have new : ¬ Live before ⟨issued before, other⟩ := fun live => Nat.lt_irrefl _ live.id_lt
      rw [live_append_singleton]
      simp [new, eq_comm]
  | append_singleton during step inductionHypothesis =>
      have never_issued_again :
          issued (before ++ .call (.subscribe listener) :: during) ≠ issued before := by
        rw [issued_append_subscribe]
        omega
      rw [← List.cons_append, ← List.append_assoc, live_append_singleton, inductionHypothesis,
        List.mem_append, List.mem_singleton, not_or]
      simp only [never_issued_again, and_false, false_or, and_assoc, ne_comm]

/-! ## What steps do -/

variable {registry : Registry}

theorem exists_registerAll_eq (registry : Registry) (fragments : Entries Json) :
    ∃ themes, (registry.registerAll fragments).1 = { registry with themes := themes } := by
  induction fragments generalizing registry with
  | nil => exact ⟨registry.themes, rfl⟩
  | cons entry rest inductionHypothesis =>
      rcases entry with ⟨name, fragment⟩
      rw [registerAll]
      split
      · rename_i next registered
        rcases register_eq_ok_iff.mp registered with ⟨theme, _, rfl⟩
        exact inductionHypothesis { registry with themes := registry.themes.put name theme }
      · exact ⟨registry.themes, rfl⟩

/-- A document touches nothing but themes, whether or not all of it is registered. -/
theorem exists_load_eq (registry : Registry) (source : DocumentSource) :
    ∃ themes, (registry.registerFrom source).1 = { registry with themes := themes } := by
  rcases registry.exists_registerFrom_eq source with ⟨failure, outcome⟩
  rw [outcome]
  cases source.document? with
  | none => exact ⟨registry.themes, rfl⟩
  | some document =>
      cases document with
      | object fragments => exact registry.exists_registerAll_eq fragments
      | _ => exact ⟨registry.themes, rfl⟩

/-- What a step can do. -/
inductive Effect (registry : Registry) (step : Step) : Prop
  | activated (name : String) (call : step = .call (.activate name))
      (next : registry.take step = { registry with active := name })
  | subscribed (listener : String) (call : step = .call (.subscribe listener))
      (next : registry.take step =
        { registry with
          subscriptions := registry.subscriptions ++ [⟨registry.nextId, listener⟩]
          nextId := registry.nextId + 1 })
  | ended (id : Nat) (call : step = .call (.unsubscribe id))
      (next : registry.take step =
        { registry with
          subscriptions := registry.subscriptions.filter fun other => other.id != id })
  /-- The step is about themes alone. -/
  | quiet (themes : Entries Theme) (unnamed : step.activates? = none)
      (unsubscribed : step.subscribes = false)
      (spares : forall id, step ≠ .call (.unsubscribe id))
      (next : registry.take step = { registry with themes := themes })

theorem take_effect (registry : Registry) (step : Step) : registry.Effect step := by
  cases step with
  | call call =>
      cases call with
      | register name fragment =>
          rcases registry.exists_registerAll_eq [(name, fragment)] with ⟨themes, next⟩
          exact .quiet themes rfl rfl (by simp) next
      | edit name change => exact .quiet _ rfl rfl (by simp) rfl
      | editEach start change => exact .quiet _ rfl rfl (by simp) rfl
      | activate name =>
          refine .activated name rfl ?_
          change (registry.activate name).1 = _
          rw [activate]
          split
          · rename_i same
            rw [← same]
          · rfl
      | subscribe listener => exact .subscribed listener rfl rfl
      | unsubscribe id => exact .ended id rfl rfl
  | load source =>
      rcases registry.exists_load_eq source with ⟨themes, next⟩
      exact .quiet themes rfl rfl (by simp) next

theorem active_take (registry : Registry) (step : Step) :
    (registry.take step).active = step.activates?.getD registry.active := by
  cases registry.take_effect step with
  | activated name call next => rw [next, call]; rfl
  | subscribed listener call next => rw [next, call]; rfl
  | ended id call next => rw [next, call]; rfl
  | quiet themes unnamed _ _ next => rw [next, unnamed]; rfl

theorem nextId_take (registry : Registry) (step : Step) :
    (registry.take step).nextId = registry.nextId + issued [step] := by
  cases registry.take_effect step with
  | activated name call next => rw [next, call]; rfl
  | subscribed listener call next => rw [next, call]; rfl
  | ended id call next => rw [next, call]; rfl
  | quiet themes _ unsubscribed _ next => simp [next, issued, unsubscribed]

/-- A subscription is there after a step if the step makes it, or if it was there and the
step does not end it. -/
theorem mem_subscriptions_take (registry : Registry) (step : Step) (subscription : Subscription) :
    subscription ∈ (registry.take step).subscriptions ↔
      (step = .call (.subscribe subscription.listener) ∧ registry.nextId = subscription.id) ∨
        (subscription ∈ registry.subscriptions ∧
          step ≠ .call (.unsubscribe subscription.id)) := by
  cases registry.take_effect step with
  | activated name call next =>
      rw [next, call]
      simp
  | subscribed listener call next =>
      rcases subscription with ⟨id, other⟩
      rw [next, call, List.mem_append, List.mem_singleton, or_comm]
      simp [eq_comm (b := listener), eq_comm (b := registry.nextId), and_comm]
  | ended id call next =>
      rw [next, call, List.mem_filter]
      simp [eq_comm (a := id)]
  | quiet themes _ unsubscribed spares next =>
      have others : step ≠ .call (.subscribe subscription.listener) := by
        rintro rfl
        cases unsubscribed
      rw [next]
      simp [others, spares]

/-! ## Runs -/

theorem follow_append (registry : Registry) (first rest : List Step) :
    registry.follow (first ++ rest) = (registry.follow first).follow rest :=
  List.foldl_append

theorem follow_append_singleton (registry : Registry) (steps : List Step) (step : Step) :
    registry.follow (steps ++ [step]) = (registry.follow steps).take step :=
  registry.follow_append steps [step]

theorem follow_append_cons (registry : Registry) (before : List Step) (step : Step)
    (during : List Step) :
    registry.follow (before ++ step :: during) =
      ((registry.follow before).take step).follow during :=
  registry.follow_append before (step :: during)

variable (fallback : Theme) (steps : List Step)

theorem nextId_follow : ((new fallback).follow steps).nextId = issued steps := by
  induction steps using List.reverseRecOn with
  | nil => rfl
  | append_singleton steps step inductionHypothesis =>
      rw [follow_append_singleton, nextId_take, inductionHypothesis, issued_append]

theorem active_follow :
    ((new fallback).follow steps).active = (named steps).getLastD "light" := by
  induction steps using List.reverseRecOn with
  | nil => rfl
  | append_singleton steps step inductionHypothesis =>
      rw [follow_append_singleton, active_take, inductionHypothesis, named, named,
        List.filterMap_append]
      cases activated : step.activates? <;> simp [activated]

/-- The subscriptions of a registry are those that are live by its history. -/
theorem mem_subscriptions_follow_iff (subscription : Subscription) :
    subscription ∈ ((new fallback).follow steps).subscriptions ↔ Live steps subscription := by
  induction steps using List.reverseRecOn with
  | nil => exact iff_of_false List.not_mem_nil (not_live_nil subscription)
  | append_singleton steps step inductionHypothesis =>
      rw [follow_append_singleton, mem_subscriptions_take, nextId_follow, inductionHypothesis,
        live_append_singleton]

/-- They come in the order in which they were made. -/
theorem subscriptions_ordered :
    ((new fallback).follow steps).subscriptions.Pairwise
      fun earlier later => earlier.id < later.id := by
  induction steps using List.reverseRecOn with
  | nil => exact .nil
  | append_singleton steps step inductionHypothesis =>
      rw [follow_append_singleton]
      cases ((new fallback).follow steps).take_effect step with
      | activated name _ next => rwa [next]
      | subscribed listener _ next =>
          rw [next, List.pairwise_append]
          refine ⟨inductionHypothesis, List.pairwise_singleton _ _, ?_⟩
          intro earlier present later new
          rw [List.mem_singleton.mp new, nextId_follow]
          exact ((mem_subscriptions_follow_iff fallback steps earlier).mp present).id_lt
      | ended id _ next =>
          rw [next]
          exact inductionHypothesis.sublist List.filter_sublist
      | quiet themes _ _ _ next => rwa [next]

theorem nodup_ids :
    (((new fallback).follow steps).subscriptions.map Subscription.id).Nodup :=
  List.pairwise_map.mpr ((subscriptions_ordered fallback steps).imp Nat.ne_of_lt)

theorem subscriberCount_follow :
    ((new fallback).follow steps).subscriberCount =
      {id | ∃ listener, Live steps ⟨id, listener⟩}.ncard := by
  let ids := ((new fallback).follow steps).subscriptions.map Subscription.id
  have same : {id | ∃ listener, Live steps ⟨id, listener⟩} = ids.toFinset := by
    ext id
    rw [Set.mem_ofPred_eq, Finset.mem_coe, List.mem_toFinset, List.mem_map]
    constructor
    · rintro ⟨listener, live⟩
      exact ⟨_, (mem_subscriptions_follow_iff fallback steps _).mpr live, rfl⟩
    · rintro ⟨⟨_, listener⟩, present, rfl⟩
      exact ⟨listener, (mem_subscriptions_follow_iff fallback steps _).mp present⟩
  rw [same, Set.ncard_coe_finset, List.toFinset_card_of_nodup (nodup_ids fallback steps),
    List.length_map]
  rfl

theorem unsubscribe_snd_iff (registry : Registry) (id : Nat) :
    (registry.unsubscribe id).2 = true ↔ ∃ listener, ⟨id, listener⟩ ∈ registry.subscriptions := by
  rw [unsubscribe, List.any_eq_true]
  constructor
  · rintro ⟨⟨other, listener⟩, present, same⟩
    exact ⟨listener, beq_iff_eq.mp same ▸ present⟩
  · rintro ⟨listener, present⟩
    exact ⟨_, present, beq_self_eq_true id⟩

/-! ## What a subscriber hears -/

/-- A step that makes a name active tells every subscription, if the name was not active. -/
theorem posts_eq (registry : Registry) (step : Step) :
    registry.posts step = (Runs.changes (some registry.active) step.activates?.toList).flatMap
      fun name => registry.subscriptions.map fun subscription =>
        (subscription.id, ⟨subscription.listener, name⟩) := by
  cases step with
  | load source => exact List.zip_nil_right
  | call call =>
      cases call with
      | activate name =>
          rw [posts, notices, activate, Step.activates?]
          by_cases same : registry.active = name
          · simp [same, Runs.changes]
          · simp [same, Runs.changes, List.zip_map']
      | _ => exact List.zip_nil_right

theorem heardBy_posts (registry : Registry) (id : Nat) (step : Step) :
    Runs.heardBy id (registry.posts step) =
      (Runs.changes (some registry.active) step.activates?.toList).flatMap fun name =>
        (registry.subscriptions.filter fun subscription => subscription.id == id).map
          fun subscription => ⟨subscription.listener, name⟩ := by
  rw [posts_eq, Runs.heardBy, List.filter_flatMap, List.map_flatMap]
  simp only [List.filter_map, List.map_map]
  rfl

/-- A number that no subscription has hears nothing. -/
theorem heardBy_posts_of_absent {id : Nat}
    (absent : forall subscription, subscription ∈ registry.subscriptions -> subscription.id ≠ id)
    (step : Step) : Runs.heardBy id (registry.posts step) = [] := by
  have nobody : (registry.subscriptions.filter fun subscription => subscription.id == id) = [] :=
    List.filter_eq_nil_iff.mpr fun subscription member same =>
      absent subscription member (beq_iff_eq.mp same)
  rw [heardBy_posts, nobody]
  exact List.flatMap_eq_nil_iff.mpr fun _ _ => rfl

/-- Among ordered subscriptions, a number picks out one. -/
theorem filter_id_eq_singleton {subscriptions : List Subscription} {subscription : Subscription}
    (ordered : subscriptions.Pairwise fun earlier later => earlier.id < later.id)
    (member : subscription ∈ subscriptions) :
    (subscriptions.filter fun other => other.id == subscription.id) = [subscription] := by
  rcases List.append_of_mem member with ⟨before, after, rfl⟩
  rw [List.pairwise_append, List.pairwise_cons] at ordered
  have earlier : (before.filter fun other => other.id == subscription.id) = [] :=
    List.filter_eq_nil_iff.mpr fun other inside same =>
      Nat.ne_of_lt (ordered.2.2 other inside subscription List.mem_cons_self)
        (beq_iff_eq.mp same)
  have later : (after.filter fun other => other.id == subscription.id) = [] :=
    List.filter_eq_nil_iff.mpr fun other inside same =>
      Nat.ne_of_gt (ordered.2.1.1 other inside) (beq_iff_eq.mp same)
  rw [List.filter_append, earlier, List.nil_append,
    List.filter_cons_of_pos (by exact beq_self_eq_true _), later]

theorem heardBy_posts_of_mem {subscription : Subscription}
    (ordered : registry.subscriptions.Pairwise fun earlier later => earlier.id < later.id)
    (member : subscription ∈ registry.subscriptions) (step : Step) :
    Runs.heardBy subscription.id (registry.posts step) =
      (Runs.changes (some registry.active) step.activates?.toList).map
        fun name => ⟨subscription.listener, name⟩ := by
  rw [heardBy_posts, filter_id_eq_singleton ordered member, List.map_eq_flatMap]
  rfl

section Hears

variable {fallback : Theme} {before during after : List Step} {listener : String}

/-- Nothing is said to a number before it is issued. -/
theorem heardBy_log_before :
    Runs.heardBy (issued before) (Runs.log take posts (new fallback) before) = [] := by
  rw [Runs.heardBy_log]
  refine Runs.log_eq_nil fun earlier step later split => ?_
  refine heardBy_posts_of_absent (fun subscription present => Nat.ne_of_lt ?_) step
  have known := ((mem_subscriptions_follow_iff fallback earlier subscription).mp present).id_lt
  have grown : issued earlier ≤ issued before := by
    rw [split, issued_append]
    exact Nat.le_add_right _ _
  exact Nat.lt_of_lt_of_le known grown

/-- While a subscription is live, its listener hears of the changes of the active name. -/
theorem heardBy_log_during (live : .call (.unsubscribe (issued before)) ∉ during) :
    Runs.heardBy (issued before) (Runs.log take posts
        (((new fallback).follow before).take (.call (.subscribe listener))) during) =
      (Runs.changes (some ((new fallback).follow before).active) (named during)).map
        fun name => ⟨listener, name⟩ := by
  rw [Runs.heardBy_log]
  refine Runs.log_eq_changes (fun registry : Registry => some registry.active) ?follows ?emits
  case follows =>
    intro registry step
    rw [active_take]
    cases step.activates? <;> rfl
  case emits =>
    intro earlier step later split
    have spared : .call (.unsubscribe (issued before)) ∉ earlier := fun member =>
      live (split ▸ List.mem_append_left _ member)
    have present := (mem_subscriptions_follow_iff fallback _ _).mpr
      ((live_since before listener listener earlier).mpr ⟨rfl, spared⟩)
    have heard := heardBy_posts_of_mem (subscriptions_ordered fallback _) present step
    rwa [follow_append_cons] at heard

/-- Nothing is said to a subscription that has ended, nor by the call that ends it, since
its number stays free. -/
theorem heardBy_log_after
    (ends : forall step, step ∈ after.head? -> step = .call (.unsubscribe (issued before))) :
    Runs.heardBy (issued before) (Runs.log take posts
        ((((new fallback).follow before).take (.call (.subscribe listener))).follow during)
        after) = [] := by
  rw [Runs.heardBy_log]
  refine Runs.log_eq_nil fun earlier step later split => ?_
  cases earlier with
  | nil =>
      cases ends step (split ▸ rfl)
      rw [heardBy_posts]
      rfl
  | cons first earlier =>
      cases ends first (split ▸ rfl)
      refine heardBy_posts_of_absent (fun subscription present same => ?_) step
      rcases subscription with ⟨id, other⟩
      obtain rfl : id = issued before := same
      change _ ∈ (follow (follow _ during) _).subscriptions at present
      rw [← follow_append, ← follow_append_cons, mem_subscriptions_follow_iff, live_since]
        at present
      have ended : .call (.unsubscribe (issued before)) ∈ during ++
          .call (.unsubscribe (issued before)) :: earlier :=
        List.mem_append_right _ List.mem_cons_self
      exact present.2 ended

/-- From a subscription to its end or the end of the run, its listener hears of the changes
of the active name, and of nothing else before or after. -/
theorem heardBy_log_eq (live : .call (.unsubscribe (issued before)) ∉ during)
    (ends : forall step, step ∈ after.head? -> step = .call (.unsubscribe (issued before))) :
    Runs.heardBy (issued before) (Runs.log take posts (new fallback)
        (before ++ .call (.subscribe listener) :: (during ++ after))) =
      (Runs.changes (some ((new fallback).follow before).active) (named during)).map
        fun name => ⟨listener, name⟩ := by
  let opened := ((new fallback).follow before).take (.call (.subscribe listener))
  have parts : Runs.log take posts (new fallback)
      (before ++ .call (.subscribe listener) :: (during ++ after)) =
        Runs.log take posts (new fallback) before ++
          (((new fallback).follow before).posts (.call (.subscribe listener)) ++
            (Runs.log take posts opened during ++
              Runs.log take posts (opened.follow during) after)) := by
    rw [Runs.log_append, Runs.log, Runs.log_append]
    rfl
  have registered : Runs.heardBy (issued before) (((new fallback).follow before).posts
      (.call (.subscribe listener))) = [] := by
    rw [heardBy_posts]
    rfl
  rw [parts, Runs.heardBy_append, Runs.heardBy_append, Runs.heardBy_append, heardBy_log_before,
    registered, heardBy_log_during live, heardBy_log_after ends, List.nil_append,
    List.nil_append, List.append_nil]

end Hears

theorem unsubscribe_issued_iff (fallback : Theme) (before : List Step) (listener : String)
    (during : List Step) :
    (((new fallback).follow (before ++ .call (.subscribe listener) :: during)).unsubscribe
        (issued before)).2 = true ↔ .call (.unsubscribe (issued before)) ∉ during := by
  simp only [unsubscribe_snd_iff, mem_subscriptions_follow_iff, live_since, exists_eq_left]

/-- After any run, making a name active that is not active tells every live subscription,
once each and in the order in which they were made, and making the active name active does
nothing.  The number of a new subscription is greater than all numbers before, a number ends
once, and the live numbers are counted.  What a subscription hears in a run is the list of the
changes of the active name between its call and its end. -/
theorem subscribers_hear_changes_while_live (fallback : Theme) (steps : List Step) :
    let registry := (new fallback).follow steps
    registry.active = (named steps).getLastD "light" ∧
    (forall name, registry.active ≠ name ->
      registry.activate name = ({ registry with active := name }, true,
        registry.subscriptions.map fun subscription => ⟨subscription.listener, name⟩)) ∧
    registry.activate registry.active = (registry, false, []) ∧
    ((forall subscription, subscription ∈ registry.subscriptions ↔ Live steps subscription) ∧
      (registry.subscriptions.Pairwise fun earlier later => earlier.id < later.id) ∧
      registry.subscriberCount = {id | ∃ listener, Live steps ⟨id, listener⟩}.ncard) ∧
    (forall listener, (registry.subscribe listener).2 = issued steps) ∧
    (forall before listener during, steps = before ++ .call (.subscribe listener) :: during ->
      issued before < issued steps ∧
      ((registry.unsubscribe (issued before)).2 = true ↔
        .call (.unsubscribe (issued before)) ∉ during)) ∧
    (forall before listener during after,
      steps = before ++ .call (.subscribe listener) :: (during ++ after) ->
      .call (.unsubscribe (issued before)) ∉ during ->
      (forall step, step ∈ after.head? -> step = .call (.unsubscribe (issued before))) ->
        Runs.heardBy (issued before) (Runs.log take posts (new fallback) steps) =
          (Runs.changes (some ((new fallback).follow before).active) (named during)).map
            fun name => ⟨listener, name⟩) := by
  intro registry
  refine ⟨active_follow fallback steps, fun name different => if_neg different, if_pos rfl,
    ⟨mem_subscriptions_follow_iff fallback steps, subscriptions_ordered fallback steps,
      subscriberCount_follow fallback steps⟩,
    fun _ => nextId_follow fallback steps, ?numbers, ?hears⟩
  case numbers =>
    rintro before listener during rfl
    refine ⟨?_, unsubscribe_issued_iff fallback before listener during⟩
    rw [issued_append_subscribe]
    exact Nat.lt_succ_of_le (Nat.le_add_right _ _)
  case hears =>
    rintro before listener during after rfl live ends
    exact heardBy_log_eq live ends

/-- The page leaves before the last change, and the menu comes after the first. -/
theorem page_leaves_and_menu_stays :
    let steps : List Step :=
      [.call (.subscribe "page"), .call (.activate "dark"), .load (.jsonText "[1]"),
       .call (.subscribe "menu"), .call (.activate "dark"), .call (.activate "dusk"),
       .call (.unsubscribe 0), .call (.activate "dark")]
    let registry := (new Theme.dark).follow steps
    (registry.activate "light").2 = (true, [⟨"menu", "light"⟩]) ∧
      (registry.unsubscribe 0).2 = false ∧
      (registry.unsubscribe 1).2 = true ∧
      Runs.heardBy 0 (Runs.log take posts (new Theme.dark) steps) =
        [⟨"page", "dark"⟩, ⟨"page", "dusk"⟩] ∧
      Runs.heardBy 1 (Runs.log take posts (new Theme.dark) steps) =
        [⟨"menu", "dusk"⟩, ⟨"menu", "dark"⟩] := by
  intro steps registry
  obtain ⟨active, changed, _, _, _, numbers, hears⟩ :=
    subscribers_hear_changes_while_live Theme.dark steps
  have different : registry.active ≠ "light" := by
    rw [active]
    decide
  have left : registry.subscriptions = [⟨1, "menu"⟩] := by decide +kernel
  have ended := (numbers [] "page" steps.tail rfl).2
  have kept := (numbers (steps.take 3) "menu" (steps.drop 4) rfl).2
  have page := hears [] "page" (steps.tail.take 5) (steps.drop 6) rfl (by simp [steps, issued])
    (by simp [steps, issued])
  have menu := hears (steps.take 3) "menu" (steps.drop 4) [] rfl
    (by simp [steps, issued, Step.subscribes]) (by simp)
  refine ⟨?_, ?_, ?_, page.trans ?_, menu.trans ?_⟩
  · rw [changed "light" different, left]
    rfl
  · exact Bool.eq_false_iff.mpr fun live => ended.mp live (by simp [steps, issued])
  · exact kept.mpr (by simp [steps, issued, Step.subscribes])
  · decide +kernel
  · decide +kernel

end Registry
end ThemedStyles
