/-
**Calls on a registry that run at the same time.**

A connect looks at the slot, opens a driver without holding the registry, comes back to install it, and
closes it if another one was installed in between. A shutdown takes all drivers out of their slots and
closes them one after the other. `Scene.run` lets any calls take their steps in any order; the registry
is locked for each step on it, and what opening gives may be different each time.

* `effect_advance`: what one step of a call can do;
* `Scene.IsSound.run`: what every move keeps, a run keeps;
* `drivers_accounted`: no driver is overwritten, closed twice or lost, and between two shutdowns all
  connects of one name give one driver;
* `connect_alone`, `shutdown_alone`: a call that runs alone does what `Registry.connect` and
  `Registry.shutdown` do.
-/

import Polystore.Proofs.Registry.Slots

namespace Polystore.Registry

/-! ### Calls that run at the same time -/

/-- How far a call on a registry has come. -/
inductive Stage where
  /-- A connect that has not looked at the slot yet. -/
  | seeking (name : String)
  /-- It found no driver there and opens one. -/
  | opening (name : String) (backend : Backend)
  /-- It opened a driver and has not come back to the slot. -/
  | holding (name : String) (own : Opened)
  /-- It found another driver in the slot and has to close its own. -/
  | discarding (name : String) (own existing : Opened)
  | connected (name : String) (result : Except DatabaseError Opened)
  /-- A shutdown that has not taken the drivers yet. -/
  | stopping
  /-- It took drivers, some of which are left to be closed. -/
  | closing (taken left : List Opened)
  | stopped (result : Except DatabaseError Unit)

/-- What the others can see of a step. -/
inductive Event where
  | opened (driver : Opened)
  /-- A connect has its driver. -/
  | gained (call : Nat) (name : String) (driver : Opened)
  /-- A shutdown has taken all drivers. -/
  | took
  | closed (driver : Opened)

/-- What a step of a call leaves. -/
structure Advance where
  stage : Stage
  registry : Registry
  event : Option Event

namespace Stage

/-- Whether a call has ended. -/
def isOver : Stage → Bool
  | connected _ _ | stopped _ => true
  | _ => false

/-- The drivers that a call has to install or to close. -/
def drivers : Stage → List Opened
  | holding _ own | discarding _ own _ => [own]
  | closing _ left => left
  | _ => []

/-- The connection whose slot a call comes back to. -/
def awaited? : Stage → Option String
  | opening name _ | holding name _ => some name
  | _ => none

/-- **One step of a call.** Whatever is done to the registry is done while it is locked; opening gives
whatever it gives this time. -/
def advance (call : Nat) (outcome : Except DatabaseError Client) (registry : Registry) :
    Stage → Advance
  | seeking name =>
    match registry.find name with
    | .error error => ⟨connected name (.error error), registry, none⟩
    | .ok (.connected driver) =>
      ⟨connected name (.ok driver), registry, some (.gained call name driver)⟩
    | .ok (.closed backend) => ⟨opening name backend, registry, none⟩
  | opening name backend =>
    match registry.openWith { backend with opening := outcome } with
    | (.error error, registry) => ⟨connected name (.error error), registry, none⟩
    | (.ok own, registry) => ⟨holding name own, registry, some (.opened own)⟩
  | holding name own =>
    match registry.install name own with
    | (.error error, registry) => ⟨connected name (.error error), registry, none⟩
    | (.ok driver, later) =>
      ⟨if registry.isConnected name then discarding name own driver else connected name (.ok driver),
        later, some (.gained call name driver)⟩
  | discarding name own existing => ⟨connected name (.ok existing), registry, some (.closed own)⟩
  | stopping =>
    let (taken, registry) := registry.takeAll
    ⟨closing taken taken, registry, some .took⟩
  | closing taken (driver :: left) => ⟨closing taken left, registry, some (.closed driver)⟩
  | closing taken [] => ⟨stopped (Registry.closing taken), registry, none⟩
  | final => ⟨final, registry, none⟩

end Stage

namespace Event

/-- The driver that an event opens. -/
def opens : Event → List Opened
  | opened driver => [driver]
  | _ => []

/-- The driver that an event closes. -/
def closes : Event → List Opened
  | closed driver => [driver]
  | _ => []

/-- The drivers that were gained under a name since all drivers were taken last. The latest event comes
first. -/
def recent (name : String) : List Event → List Opened
  | [] => []
  | took :: _ => []
  | gained _ other driver :: rest =>
    if other = name then driver :: recent name rest else recent name rest
  | _ :: rest => recent name rest

end Event

/-- A registry and the calls on it, with what happened so far, the latest first. -/
structure Scene where
  registry : Registry
  calls : List Stage
  events : List Event

/-- What happens next: a call begins, or one that has begun takes a step. -/
inductive Move where
  | connect (name : String)
  | shutdown
  | advance (call : Nat) (outcome : Except DatabaseError Client)

namespace Scene

/-- The scene after a move. -/
def after (scene : Scene) : Move → Scene
  | .connect name => { scene with calls := scene.calls ++ [.seeking name] }
  | .shutdown => { scene with calls := scene.calls ++ [.stopping] }
  | .advance call outcome =>
    match scene.calls[call]? with
    | none => scene
    | some stage =>
      let next := stage.advance call outcome scene.registry
      ⟨next.registry, scene.calls.set call next.stage, next.event.toList ++ scene.events⟩

/-- **What becomes of a registry** in the order of the moves. -/
def run (scene : Scene) (moves : List Move) : Scene := moves.foldl after scene

def opened (scene : Scene) : List Opened := scene.events.flatMap Event.opens

def closed (scene : Scene) : List Opened := scene.events.flatMap Event.closes

/-- The drivers that calls have to install or to close. -/
def pending (scene : Scene) : List Opened := scene.calls.flatMap Stage.drivers

end Scene

/-! ### One step -/

namespace Stage

/-- The connection and the driver that a call has to give. -/
def answer? : Stage → Option (String × Opened)
  | discarding name _ existing => some (name, existing)
  | connected name (.ok driver) => some (name, driver)
  | _ => none

end Stage

/-- **What a step of a call can do.** -/
inductive Effect (call : Nat) (registry : Registry) (stage : Stage) : Advance → Prop
  | quiet {next : Stage} (same : next.drivers = stage.drivers)
    (answers : next.answer? = stage.answer?)
    (awaits : ∀ name, next.awaited? = some name → registry.knows name = true) :
    Effect call registry stage ⟨next, registry, none⟩
  | opens (name : String) (client : Client) (empty : stage.drivers = [])
    (known : registry.knows name = true) :
    Effect call registry stage
      ⟨.holding name ⟨registry.opened, client⟩, { registry with opened := registry.opened + 1 },
        some (.opened ⟨registry.opened, client⟩)⟩
  | finds {name : String} {driver : Opened} {next : Stage}
    (present : registry.driver? name = some driver) (same : next.drivers = stage.drivers)
    (answers : next.answer? = some (name, driver)) (awaits : next.awaited? = none) :
    Effect call registry stage ⟨next, registry, some (.gained call name driver)⟩
  | installs {name : String} {driver : Opened} {slot : Slot}
    (found : NameTable.get? name registry.slots = some slot) (vacant : slot.connected = none)
    (own : stage.drivers = [driver]) :
    Effect call registry stage
      ⟨.connected name (.ok driver), registry.fill name slot (some driver),
        some (.gained call name driver)⟩
  | takes (stops : stage = .stopping) :
    Effect call registry stage
      ⟨.closing registry.held registry.held, registry.takeAll.2, some .took⟩
  | closes {driver : Opened} {next : Stage} (left : stage.drivers = driver :: next.drivers)
    (answers : next.answer? = stage.answer?) (awaits : next.awaited? = none) :
    Effect call registry stage ⟨next, registry, some (.closed driver)⟩

section Steps

variable {registry : Registry} {call : Nat} {stage : Stage} {next : Advance}

theorem slot_of_knows {name : String} (known : registry.knows name = true) :
    ∃ slot, NameTable.get? name registry.slots = some slot :=
  Option.isSome_iff_exists.mp known

/-- A call that comes back to no slot has nothing to show for it. -/
theorem Effect.settles {next : Stage} (same : next.drivers = stage.drivers)
    (answers : next.answer? = stage.answer?) (awaits : next.awaited? = none) :
    Effect call registry stage ⟨next, registry, none⟩ := by
  refine .quiet same answers fun name awaited => ?_
  rw [awaits] at awaited
  cases awaited

/-- **Every step of a call does one of these things.** -/
theorem effect_advance (call : Nat) (outcome : Except DatabaseError Client)
    (known : ∀ name, stage.awaited? = some name → registry.knows name = true) :
    Effect call registry stage (stage.advance call outcome registry) := by
  cases stage with
  | seeking name =>
    cases found : NameTable.get? name registry.slots with
    | none =>
      rw [Stage.advance, Registry.find_of_none found]
      exact .settles rfl rfl rfl
    | some slot =>
      rw [Stage.advance, Registry.find_of_some found]
      cases holder : slot.connected with
      | none =>
        refine .quiet rfl rfl fun other awaited => ?_
        obtain rfl : name = other := Option.some.inj awaited
        rw [Registry.knows, found]
        rfl
      | some driver =>
        have present : registry.driver? name = some driver := by
          rw [Registry.driver?, found, Option.bind_some, holder]
        exact .finds present rfl rfl rfl
  | opening name backend =>
    cases outcome with
    | error error => exact .settles rfl rfl rfl
    | ok client => exact .opens name client rfl (known name rfl)
  | holding name own =>
    obtain ⟨slot, found⟩ := slot_of_knows (known name rfl)
    have listed : registry.slot name = .ok slot := by rw [Registry.slot, found]
    cases holder : slot.connected with
    | none =>
      have vacant : registry.isConnected name = false := by
        rw [Registry.isConnected, found, Option.any_some, holder]
        rfl
      rw [Stage.advance, Registry.install, listed]
      simp only [holder, vacant]
      exact .installs found holder rfl
    | some driver =>
      have occupied : registry.isConnected name = true := by
        rw [Registry.isConnected, found, Option.any_some, holder]
        rfl
      have present : registry.driver? name = some driver := by
        rw [Registry.driver?, found, Option.bind_some, holder]
      rw [Stage.advance, Registry.install, listed]
      simp only [holder, occupied]
      exact .finds present rfl rfl rfl
  | discarding name own existing => exact .closes rfl rfl rfl
  | connected name result => exact .settles rfl rfl rfl
  | stopping => exact .takes rfl
  | closing taken left =>
    cases left with
    | nil => exact .settles rfl rfl rfl
    | cons driver left => exact .closes rfl rfl rfl
  | stopped result => exact .settles rfl rfl rfl

namespace Effect

/-- **No driver gets lost**: what is opened, in the slots or with the call stays in the slots or with the
call, unless it is closed. -/
theorem accounted (effect : Effect call registry stage next) :
    (next.event.toList.flatMap Event.opens ++ registry.held ++ stage.drivers).Perm
      (next.registry.held ++ next.stage.drivers ++ next.event.toList.flatMap Event.closes) := by
  cases effect with
  | quiet same => simp [same]
  | opens name client empty =>
    rw [empty, List.append_nil]
    exact (List.perm_append_singleton _ registry.held).symm.trans (by simp [Event.closes]; rfl)
  | finds present same => simp [same, Event.opens, Event.closes]
  | @installs name driver slot found vacant own =>
    rw [own]
    refine ((List.perm_append_singleton driver registry.held).trans
      (Registry.perm_held_fill found vacant).symm).trans ?_
    simp [Stage.drivers, Event.closes]
  | takes stops =>
    rw [stops, Registry.held_takeAll]
    simp [Stage.drivers, Event.opens, Event.closes]
  | @closes driver next left =>
    rw [left]
    show (registry.held ++ driver :: next.drivers).Perm (registry.held ++ next.drivers ++ [driver])
    rw [List.append_assoc]
    exact (List.perm_append_singleton driver next.drivers).symm.append_left _

/-- A driver that is opened has the next number. -/
theorem number_of_opens (effect : Effect call registry stage next) {driver : Opened}
    (opens : driver ∈ next.event.toList.flatMap Event.opens) :
    driver.number = registry.opened ∧ next.registry.opened = registry.opened + 1 ∧
      next.event.toList.flatMap Event.opens = [driver] := by
  cases effect with
  | opens name client =>
    obtain rfl := List.mem_singleton.mp opens
    exact ⟨rfl, rfl, rfl⟩
  | quiet | finds | installs | takes | closes => cases opens

theorem counted (effect : Effect call registry stage next) :
    registry.opened ≤ next.registry.opened := by
  cases effect with
  | opens => exact Nat.le_succ _
  | quiet | finds | installs | takes | closes => exact Nat.le_refl _

/-- A call has gained the driver that it is going to give. -/
theorem answers (effect : Effect call registry stage next) {name : String} {driver : Opened}
    (given : next.stage.answer? = some (name, driver)) :
    next.event = some (.gained call name driver) ∨ stage.answer? = some (name, driver) := by
  cases effect with
  | quiet same answers => exact .inr (answers.symm.trans given)
  | closes left answers => exact .inr (answers.symm.trans given)
  | finds present same answers =>
    cases answers.symm.trans given
    exact .inl rfl
  | installs =>
    cases given
    exact .inl rfl
  | opens | takes => cases given

theorem knows (effect : Effect call registry stage next) {name : String}
    (known : registry.knows name = true) : next.registry.knows name = true := by
  cases effect with
  | installs => exact Registry.knows_fill known _
  | takes => exact (Registry.knows_takeAll registry name).trans known
  | quiet | opens | finds | closes => exact known

theorem awaits (effect : Effect call registry stage next) {name : String}
    (awaited : next.stage.awaited? = some name) : next.registry.knows name = true := by
  cases effect with
  | quiet same answers awaits => exact awaits name awaited
  | opens other client empty known =>
    obtain rfl : other = name := Option.some.inj awaited
    exact known
  | finds present same answers awaits => exact nomatch awaits.symm.trans awaited
  | closes left answers awaits => exact nomatch awaits.symm.trans awaited
  | installs | takes => cases awaited

/-- **A driver stays in its slot** unless a shutdown takes all drivers. -/
theorem keeps (effect : Effect call registry stage next) {name : String} {driver : Opened}
    (present : registry.driver? name = some driver) :
    next.registry.driver? name = some driver ∨
      stage = .stopping ∧ next.registry.driver? name = none := by
  cases effect with
  | @installs other own slot found vacant =>
    rw [Registry.driver?_fill]
    by_cases same : name = other
    · rw [Registry.driver?, same, found, Option.bind_some, vacant] at present
      cases present
    · rw [if_neg same]
      exact .inl present
  | takes stops => exact .inr ⟨stops, Registry.driver?_takeAll registry name⟩
  | quiet | opens | finds | closes => exact .inl present

end Effect

/-- **The drivers gained since the last shutdown are in their slots.** -/
def AreCurrent (registry : Registry) (events : List Event) : Prop :=
  ∀ name, ∀ driver ∈ Event.recent name events, registry.driver? name = some driver

/-- **Between two shutdowns, all connects of one name gain one driver.** -/
def Agree : List Event → Prop
  | [] => True
  | .gained _ name driver :: rest => (∀ other ∈ Event.recent name rest, other = driver) ∧ Agree rest
  | _ :: rest => Agree rest

/-- A connect gains the driver that is in the slot then, or one for a slot without a driver. -/
theorem Effect.agree (effect : Effect call registry stage next) {events : List Event}
    (current : AreCurrent registry events) (agree : Agree events) :
    AreCurrent next.registry (next.event.toList ++ events) ∧ Agree (next.event.toList ++ events) := by
  cases effect with
  | @finds name driver _ present =>
    refine ⟨fun other found gained => ?_, fun other gained => ?_, agree⟩
    · show registry.driver? other = some found
      rw [Option.toList_some, List.singleton_append, Event.recent] at gained
      split at gained
      · rename_i same
        subst same
        rcases List.mem_cons.mp gained with rfl | earlier
        · exact present
        · exact current _ _ earlier
      · exact current _ _ gained
    · exact Option.some.inj ((current name other gained).symm.trans present)
  | @installs name driver slot found vacant =>
    have free : registry.driver? name = none := by
      rw [Registry.driver?, found, Option.bind_some, vacant]
    have unheard (other : Opened) (gained : other ∈ Event.recent name events) : False :=
      nomatch free.symm.trans (current name other gained)
    refine ⟨fun other given gained => ?_, fun other gained => (unheard other gained).elim, agree⟩
    show (registry.fill name slot (some driver)).driver? other = some given
    rw [Registry.driver?_fill]
    rw [Option.toList_some, List.singleton_append, Event.recent] at gained
    split at gained
    · rename_i same
      subst same
      rcases List.mem_cons.mp gained with rfl | earlier
      · exact if_pos rfl
      · exact (unheard _ earlier).elim
    · rename_i different
      rw [if_neg (Ne.symm different)]
      exact current _ _ gained
  | takes => exact ⟨fun _ _ gained => (nomatch gained), agree⟩
  | quiet | opens | closes => exact ⟨current, agree⟩

end Steps

/-! ### A run -/

namespace Scene

/-- **What holds of every registry that calls run on**, where `before` are the drivers that it held at
the beginning. -/
structure IsSound (before : List Opened) (scene : Scene) : Prop where
  accounted : (before ++ scene.opened).Perm (scene.registry.held ++ scene.pending ++ scene.closed)
  numbered : ((before ++ scene.opened).map Opened.number).Nodup
  bounded : ∀ driver ∈ before ++ scene.opened, driver.number < scene.registry.opened
  known : ∀ stage ∈ scene.calls, ∀ name, stage.awaited? = some name →
    scene.registry.knows name = true
  current : AreCurrent scene.registry scene.events
  agree : Agree scene.events
  answered : ∀ call stage, scene.calls[call]? = some stage → ∀ name driver,
    stage.answer? = some (name, driver) → .gained call name driver ∈ scene.events

theorem isSound_start {registry : Registry} (sound : registry.IsSound) :
    IsSound registry.held ⟨registry, [], []⟩ where
  accounted := by
    rw [pending, closed, opened, List.flatMap_nil, List.flatMap_nil, List.append_nil]
    exact (List.append_nil _).symm ▸ .refl _
  numbered := by
    rw [opened, List.flatMap_nil, List.append_nil]
    exact sound.numbered
  bounded := by
    rw [opened, List.flatMap_nil, List.append_nil]
    exact sound.bounded
  known := fun _ member => (nomatch member)
  current := fun _ _ gained => (nomatch gained)
  agree := trivial
  answered := fun _ _ found => (nomatch found)

section Advances

variable {before : List Opened} {scene : Scene}

/-- A call that begins has nothing yet. -/
theorem IsSound.begin (sound : scene.IsSound before) {stage : Stage} (empty : stage.drivers = [])
    (unawaited : stage.awaited? = none) (unanswered : stage.answer? = none) :
    IsSound before { scene with calls := scene.calls ++ [stage] } where
  accounted := by
    have same : pending { scene with calls := scene.calls ++ [stage] } = scene.pending := by
      simp [pending, empty]
    rw [same]
    exact sound.accounted
  numbered := sound.numbered
  bounded := sound.bounded
  known := by
    intro other member name awaited
    rcases List.mem_append.mp member with earlier | new
    · exact sound.known other earlier name awaited
    · obtain rfl := List.mem_singleton.mp new
      exact nomatch unawaited.symm.trans awaited
  current := sound.current
  agree := sound.agree
  answered := by
    intro call other found name driver answers
    rw [List.getElem?_append] at found
    split at found
    · exact sound.answered call other found name driver answers
    · obtain rfl := List.mem_singleton.mp (List.mem_of_getElem? found)
      exact nomatch unanswered.symm.trans answers

/-- What is put in the place of a call. -/
theorem perm_flatMap_set {α β : Type} (part : α → List β) {items : List α} {place : Nat} {old : α}
    (found : items[place]? = some old) (new : α) :
    ((items.set place new).flatMap part ++ part old).Perm (items.flatMap part ++ part new) := by
  induction items generalizing place with
  | nil => cases found
  | cons first rest hypothesis =>
    cases place with
    | zero =>
      obtain rfl : first = old := Option.some.inj found
      rw [List.set_cons_zero, List.flatMap_cons, List.flatMap_cons]
      classical
      refine List.perm_iff_count.mpr fun item => ?_
      simp only [List.count_append]
      omega
    | succ place =>
      rw [List.set_cons_succ, List.flatMap_cons, List.flatMap_cons, List.append_assoc, List.append_assoc]
      exact (hypothesis found).append_left _

/-- A step of a call that has begun. -/
theorem IsSound.advance (sound : scene.IsSound before) {call : Nat} {stage : Stage} {next : Advance}
    (found : scene.calls[call]? = some stage) (effect : Effect call scene.registry stage next) :
    IsSound before
      ⟨next.registry, scene.calls.set call next.stage, next.event.toList ++ scene.events⟩ where
  accounted := by
    have step := effect.accounted
    have replaced := perm_flatMap_set Stage.drivers found next.stage
    have former := sound.accounted
    unfold opened pending closed at *
    rw [List.flatMap_append, List.flatMap_append]
    -- Both sides hold each driver equally often, by what the step adds and takes away.
    classical
    rw [List.perm_iff_count] at *
    intro driver
    have added := step driver
    have moved := replaced driver
    have known := former driver
    simp only [List.count_append] at added moved known ⊢
    omega
  numbered := by
    have former := sound.numbered
    unfold opened at *
    rw [List.flatMap_append]
    cases opens : next.event.toList.flatMap Event.opens with
    | nil => exact former
    | cons driver rest =>
      obtain ⟨number, _, only⟩ := effect.number_of_opens (opens ▸ List.mem_cons_self)
      obtain rfl : rest = [] := (List.cons.inj (opens.symm.trans only)).2
      have apart : driver.number ∉ (before ++ scene.events.flatMap Event.opens).map Opened.number := by
        intro member
        obtain ⟨other, listed, same⟩ := List.mem_map.mp member
        have less := sound.bounded other listed
        omega
      have front : (before ++ driver :: scene.events.flatMap Event.opens).Perm
          (driver :: (before ++ scene.events.flatMap Event.opens)) := List.perm_middle
      exact (front.map Opened.number).nodup_iff.mpr (List.nodup_cons.mpr ⟨apart, former⟩)
  bounded := by
    intro driver member
    rw [opened, List.flatMap_append, List.mem_append, List.mem_append] at member
    have earlier (listed : driver ∈ before ++ scene.opened) :
        driver.number < next.registry.opened :=
      Nat.lt_of_lt_of_le (sound.bounded driver listed) effect.counted
    rcases member with held | new | old
    · exact earlier (List.mem_append_left _ held)
    · obtain ⟨number, following, _⟩ := effect.number_of_opens new
      show driver.number < next.registry.opened
      omega
    · exact earlier (List.mem_append_right _ old)
  known := by
    intro other member name awaited
    rcases List.mem_or_eq_of_mem_set member with earlier | rfl
    · exact effect.knows (sound.known other earlier name awaited)
    · exact effect.awaits awaited
  current := (effect.agree sound.current sound.agree).1
  agree := (effect.agree sound.current sound.agree).2
  answered := by
    intro place other standing name driver answers
    rw [List.getElem?_set] at standing
    split at standing
    · rename_i same
      subst same
      split at standing
      · obtain rfl := Option.some.inj standing
        rcases effect.answers answers with gained | already
        · rw [gained]
          exact List.mem_cons_self
        · exact List.mem_append_right _ (sound.answered call stage found name driver already)
      · cases standing
    · exact List.mem_append_right _ (sound.answered place other standing name driver answers)

theorem after_of_none {call : Nat} (absent : scene.calls[call]? = none)
    (outcome : Except DatabaseError Client) : scene.after (.advance call outcome) = scene := by
  simp only [Scene.after, absent]

theorem after_advance {call : Nat} {stage : Stage} {outcome : Except DatabaseError Client}
    (found : scene.calls[call]? = some stage) :
    scene.after (.advance call outcome) =
      let next := stage.advance call outcome scene.registry
      ⟨next.registry, scene.calls.set call next.stage, next.event.toList ++ scene.events⟩ := by
  simp only [Scene.after, found]

/-- **Every move keeps what holds of the registry.** -/
theorem IsSound.after (sound : scene.IsSound before) (move : Move) : (scene.after move).IsSound before := by
  cases move with
  | connect name => exact sound.begin rfl rfl rfl
  | shutdown => exact sound.begin rfl rfl rfl
  | advance call outcome =>
    cases found : scene.calls[call]? with
    | none =>
      rw [after_of_none found]
      exact sound
    | some stage =>
      have known := sound.known stage (List.mem_of_getElem? found)
      rw [after_advance found]
      exact sound.advance found (effect_advance call outcome known)

theorem IsSound.run (sound : scene.IsSound before) (moves : List Move) :
    (scene.run moves).IsSound before := by
  induction moves generalizing scene with
  | nil => exact sound
  | cons move rest hypothesis => exact hypothesis (sound.after move)

end Advances

end Scene

section Agreement

variable {name : String} {other : Nat} {found : Opened} {later between earlier : List Event}

theorem Agree.of_append (agree : Agree (later ++ earlier)) : Agree earlier := by
  induction later with
  | nil => exact agree
  | cons event rest hypothesis =>
    refine hypothesis ?_
    cases event with
    | gained => exact agree.2
    | opened | took | closed => exact agree

/-- What was gained since the last shutdown. -/
theorem mem_recent (undisturbed : Event.took ∉ between) :
    found ∈ Event.recent name (between ++ .gained other name found :: earlier) := by
  induction between with
  | nil => simp [Event.recent]
  | cons event rest hypothesis =>
    have gained := hypothesis fun member => undisturbed (List.mem_cons_of_mem _ member)
    cases event with
    | took => exact absurd List.mem_cons_self undisturbed
    | gained call second driver =>
      rw [List.cons_append, Event.recent]
      split
      · exact List.mem_cons_of_mem _ gained
      · exact gained
    | opened | closed => exact gained

/-- Two connects of a name with no shutdown between them gain one driver. -/
theorem Agree.eq {call : Nat} {driver : Opened}
    (agree : Agree
      (later ++ .gained call name driver :: (between ++ .gained other name found :: earlier)))
    (undisturbed : Event.took ∉ between) : driver = found := by
  have rest := agree.of_append.1
  exact (rest found (mem_recent undisturbed)).symm

end Agreement

/-- Whether a move is that of a shutdown which takes all drivers. -/
def Scene.IsTaking (scene : Scene) : Move → Prop
  | .advance call _ => scene.calls[call]? = some .stopping
  | _ => False

/-- A driver stays in its slot until a shutdown takes it. -/
theorem driver?_after {scene : Scene} {before : List Opened} (sound : scene.IsSound before) (move : Move)
    {name : String} {driver : Opened} (present : scene.registry.driver? name = some driver) :
    (scene.after move).registry.driver? name = some driver ∨
      scene.IsTaking move ∧ (scene.after move).registry.driver? name = none := by
  cases move with
  | connect | shutdown => exact .inl present
  | advance call outcome =>
    cases found : scene.calls[call]? with
    | none =>
      rw [Scene.after_of_none found]
      exact .inl present
    | some stage =>
      have known := sound.known stage (List.mem_of_getElem? found)
      rw [Scene.after_advance found]
      rcases (effect_advance call outcome known).keeps present with stays | ⟨rfl, taken⟩
      · exact .inl stays
      · exact .inr ⟨found, taken⟩

/-- **Connects and shutdowns lose no driver**, however their steps are mixed. Beginning with any registry
that holds different drivers:
* a driver stays in its slot until a shutdown takes it;
* no two drivers are the same, and each is closed once at most;
* when all calls have ended, the drivers that were opened and not closed are those in the slots;
* a connect that succeeds gives a driver that it gained, and all that are gained under one name with no
  shutdown in between are the same. -/
theorem drivers_accounted {registry : Registry} (sound : registry.IsSound) (moves : List Move) :
    let scene := Scene.run ⟨registry, [], []⟩ moves
    (∀ move name driver, scene.registry.driver? name = some driver →
      (scene.after move).registry.driver? name = some driver ∨
        scene.IsTaking move ∧ (scene.after move).registry.driver? name = none) ∧
    ((registry.held ++ scene.opened).map Opened.number).Nodup ∧
    (scene.closed.map Opened.number).Nodup ∧
    (∀ driver ∈ scene.closed, driver ∈ registry.held ++ scene.opened) ∧
    (scene.calls.all Stage.isOver = true → ∀ driver,
      driver ∈ registry.held ++ scene.opened ∧ driver ∉ scene.closed ↔ driver ∈ scene.registry.held) ∧
    (∀ call name driver, scene.calls[call]? = some (.connected name (.ok driver)) →
      .gained call name driver ∈ scene.events) ∧
    ∀ later between earlier call other name driver found,
      scene.events =
        later ++ .gained call name driver :: (between ++ .gained other name found :: earlier) →
      .took ∉ between → driver = found := by
  intro scene
  have holds : scene.IsSound registry.held := (Scene.isSound_start sound).run moves
  have numbers : ((scene.registry.held ++ scene.pending ++ scene.closed).map Opened.number).Nodup :=
    (holds.accounted.map Opened.number).nodup_iff.mp holds.numbered
  rw [List.map_append] at numbers
  refine ⟨fun move name driver present => driver?_after holds move present, holds.numbered,
    (List.nodup_append.mp numbers).2.1, fun driver closed => ?_, fun finished driver => ?_,
    fun call name driver ended => holds.answered call _ ended name driver rfl,
    fun later between earlier call other name driver found split undisturbed => ?_⟩
  · exact holds.accounted.mem_iff.mpr (List.mem_append_right _ closed)
  · have idle : scene.pending = [] := by
      refine List.flatMap_eq_nil_iff.mpr fun stage member => ?_
      have ended := List.all_eq_true.mp finished stage member
      cases stage with
      | connected | stopped => rfl
      | seeking | opening | holding | discarding | stopping | closing => cases ended
    have accounted := holds.accounted
    rw [idle, List.append_nil] at accounted numbers
    rw [accounted.mem_iff, List.mem_append]
    have apart (held : driver ∈ scene.registry.held) : driver ∉ scene.closed := fun closed =>
      (List.nodup_append.mp numbers).2.2 _ (List.mem_map_of_mem held) _ (List.mem_map_of_mem closed) rfl
    constructor
    · rintro ⟨held | closed, left⟩
      · exact held
      · exact absurd closed left
    · exact fun held => ⟨.inl held, apart held⟩
  · have agree := holds.agree
    rw [split] at agree
    exact agree.eq undisturbed

/-- A registry with one connection, which is not open. -/
def unopened : Registry := ⟨"main", [("main", ⟨.ofDriver "memory", .memory, none⟩)], 0⟩

/-- Two connects that both find no driver, a third one behind them, and a shutdown that takes the driver of
the faster one before the slower one has closed its own. -/
def race : List Move :=
  let opens : Except DatabaseError Client := .ok ⟨.document .empty, .ok ()⟩
  [.connect "main", .connect "main", .advance 0 opens, .advance 1 opens, .advance 0 opens,
    .advance 1 opens, .advance 1 opens, .advance 0 opens, .shutdown, .advance 2 opens,
    .connect "main", .advance 3 opens, .advance 3 opens, .advance 0 opens, .advance 3 opens,
    .advance 2 opens, .advance 2 opens]

/-- The race ends with the third driver in the slot, the other two are closed. -/
theorem drivers_accounted_race :
    let scene := Scene.run ⟨unopened, [], []⟩ race
    scene.registry.held.map Opened.number = [2] ∧ scene.closed.map Opened.number = [1, 0] ∧
      ∀ driver, driver ∈ scene.opened ∧ driver ∉ scene.closed ↔ driver ∈ scene.registry.held := by
  have sound : unopened.IsSound := ⟨List.nodup_nil, fun _ member => (nomatch member)⟩
  obtain ⟨_, _, _, _, accounted, _⟩ := drivers_accounted sound race
  exact ⟨rfl, rfl, accounted rfl⟩

/-! ### Calls that run alone -/

section Alone

/-- One step of a call that runs alone. -/
theorem after_alone (registry : Registry) (stage : Stage) (events : List Event)
    (outcome : Except DatabaseError Client) :
    (⟨registry, [stage], events⟩ : Scene).after (.advance 0 outcome) =
      let next := stage.advance 0 outcome registry
      ⟨next.registry, [next.stage], next.event.toList ++ events⟩ := rfl

/-- **A connect that runs alone** does what connecting does. -/
theorem connect_alone (registry : Registry) (name : String) (outcome : Except DatabaseError Client)
    (opens : ∀ slot, registry.slot name = .ok slot → slot.backend.opening = outcome) :
    let scene := Scene.run ⟨registry, [], []⟩ (.connect name :: List.replicate 3 (.advance 0 outcome))
    scene.calls = [.connected name (registry.connect name).1] ∧
      scene.registry = (registry.connect name).2 := by
  simp only [List.replicate, Scene.run, List.foldl_cons, List.foldl_nil]
  rw [show (Scene.mk registry [] []).after (.connect name) = ⟨registry, [.seeking name], []⟩ from rfl]
  simp only [after_alone, Registry.connect]
  cases found : NameTable.get? name registry.slots with
  | none =>
    simp only [Stage.advance, Registry.find_of_none found]
    constructor <;> trivial
  | some slot =>
    have listed : registry.slot name = .ok slot := by rw [Registry.slot, found]
    have opening := opens slot listed
    simp only [Stage.advance, Registry.find_of_some found]
    cases holder : slot.connected with
    | some driver => exact ⟨rfl, rfl⟩
    | none =>
      cases outcome with
      | error error =>
        simp only [Registry.openWith, opening]
        constructor <;> trivial
      | ok client =>
        have known : Registry.slot { registry with opened := registry.opened + 1 } name = .ok slot := listed
        have free : Registry.isConnected { registry with opened := registry.opened + 1 } name = false := by
          rw [Registry.isConnected, found, Option.any_some, holder]
          rfl
        simp only [Registry.openWith, opening, Registry.install, known, holder, free]
        constructor <;> trivial

/-- The drivers that are left are closed one after the other. -/
theorem closing_alone (registry : Registry) (taken left : List Opened) (events : List Event)
    (outcome : Except DatabaseError Client) :
    let scene := Scene.run ⟨registry, [.closing taken left], events⟩
      (List.replicate (left.length + 1) (.advance 0 outcome))
    scene.calls = [.stopped (Registry.closing taken)] ∧ scene.registry = registry ∧
      scene.closed = left.reverse ++ events.flatMap Event.closes := by
  induction left generalizing events with
  | nil => exact ⟨rfl, rfl, rfl⟩
  | cons driver left hypothesis =>
    obtain ⟨calls, same, closed⟩ := hypothesis (.closed driver :: events)
    refine ⟨calls, same, closed.trans ?_⟩
    rw [List.reverse_cons, List.append_assoc]
    rfl

/-- **A shutdown that runs alone** does what shutting down does, and closes each driver that it took. -/
theorem shutdown_alone (registry : Registry) (outcome : Except DatabaseError Client) :
    let scene := Scene.run ⟨registry, [], []⟩
      (.shutdown :: List.replicate (registry.held.length + 2) (.advance 0 outcome))
    scene.calls = [.stopped registry.shutdown.1] ∧ scene.registry = registry.shutdown.2 ∧
      scene.closed = registry.held.reverse := by
  obtain ⟨calls, same, closed⟩ :=
    closing_alone registry.takeAll.2 registry.held registry.held [.took] outcome
  exact ⟨calls, same, closed.trans (List.append_nil _)⟩

end Alone

end Polystore.Registry
