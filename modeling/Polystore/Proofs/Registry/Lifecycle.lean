/-
**Which connections are open after any calls on a registry.**

A call asks a connection for one kind of access, asks for the driver that it is configured with, or shuts
everything down. What is proved of a registry on the way is `Serves`: it has the slots of its
configuration, and every backend in them opens.

* `exists_connectAll`, `exists_boot`: what is open after the start;
* `isConnected_respond`: what one call does to the connections that are open;
* `isConnected_after`: what any calls do to them;
* `connected_since_shutdown`: when a registry boots, and which connections are open from then on.
-/

import Polystore.Proofs.Registry.Slots

namespace Polystore.Registry

/-- What a connection is asked for: its documents, its tables, or the client itself. -/
inductive Access where
  | documents
  | tables
  | client
  deriving DecidableEq

/-- A call on a registry. It is about the default connection if it names none. -/
inductive Call where
  | acquire (access : Access) (name : Option String)
  | hasDriver (driver : String) (name : Option String)
  | shutdown
  deriving DecidableEq

/-- What a call gives that succeeds. -/
inductive Reply where
  | access (access : Access) (driver : Opened)
  | holds (answer : Bool)
  | finished

/-- The connection that a call is about. -/
def Call.target? : Call → Option (Option String)
  | acquire _ name | hasDriver _ name => some name
  | shutdown => none

/-- Access to a connection, which is opened if need be. -/
def acquire (registry : Registry) (access : Access) (name : Option String) :
    Except DatabaseError Reply × Registry :=
  match registry.connect (registry.resolve name) with
  | (.ok driver, registry) => (.ok (.access access driver), registry)
  | (.error error, registry) => (.error error, registry)

/-- The answer to a call, and the registry after it. -/
def respond (registry : Registry) : Call → Except DatabaseError Reply × Registry
  | .acquire access name => registry.acquire access name
  | .hasDriver driver name => ((registry.hasDriver driver name).map .holds, registry)
  | .shutdown => (registry.shutdown.1.map fun _ => .finished, registry.shutdown.2)

/-- The registry after a list of calls. -/
def after (registry : Registry) (calls : List Call) : Registry :=
  calls.foldl (fun registry call => (registry.respond call).2) registry

/-- Whether a call gets access to a connection. -/
def Acquires (registry : Registry) (call : Call) (name : String) : Prop :=
  ∃ access wanted reply, call = .acquire access wanted ∧ registry.resolve wanted = name ∧
    (registry.respond call).1 = .ok reply

/-- Whether one of a list of calls gets access to a connection, with no shutdown after it. -/
def AcquiredIn (registry : Registry) (calls : List Call) (name : String) : Prop :=
  ∃ earlier call later, calls = earlier ++ call :: later ∧ .shutdown ∉ later ∧
    (registry.after earlier).Acquires call name

/-- Whether connections can be opened: the factory of a driver takes the settings of each connection with
that driver, and the backend that it gives opens. -/
def Opens (drivers : DriverTable) (connections : List (String × ConnectionConfig)) : Prop :=
  ∀ entry ∈ connections, ∀ factory, NameTable.get? entry.2.driver drivers = some factory →
    ∃ backend client, factory entry.2 = .ok backend ∧ backend.opening = .ok client

/-- Whether a connection is configured. -/
def Configured (config : DatabaseConfig) (name : String) : Prop :=
  ∃ settings, NameTable.get? name config.connections = some settings

/-- **Whether a registry serves a configuration**: it has its default connection, a slot for each of its
connections and no others, and can open all of them. -/
structure Serves (registry : Registry) (config : DatabaseConfig) : Prop where
  default : registry.default = config.default
  settings (name : String) :
    (NameTable.get? name registry.slots).map Slot.config = NameTable.get? name config.connections
  opens (name : String) (slot : Slot) :
    NameTable.get? name registry.slots = some slot → ∃ client, slot.backend.opening = .ok client

section Steps

variable {registry : Registry} {config : DatabaseConfig} {name : String} {slot : Slot}

theorem isConnected_eq_isSome_driver? (registry : Registry) (name : String) :
    registry.isConnected name = (registry.driver? name).isSome := by
  unfold isConnected driver?
  cases NameTable.get? name registry.slots <;> rfl

theorem isConnected_takeAll (registry : Registry) (name : String) :
    registry.takeAll.2.isConnected name = false := by
  rw [isConnected_eq_isSome_driver?, driver?_takeAll]
  rfl

theorem not_configured_iff :
    ¬ Configured config name ↔ NameTable.get? name config.connections = none := by
  unfold Configured
  cases NameTable.get? name config.connections <;> simp

namespace Serves

theorem exists_slot (serves : registry.Serves config) {settings : ConnectionConfig}
    (configured : NameTable.get? name config.connections = some settings) :
    ∃ slot, NameTable.get? name registry.slots = some slot ∧ slot.config = settings :=
  Option.map_eq_some_iff.mp ((serves.settings name).trans configured)

theorem no_slot (serves : registry.Serves config)
    (unknown : NameTable.get? name config.connections = none) :
    NameTable.get? name registry.slots = none :=
  Option.map_eq_none_iff.mp ((serves.settings name).trans unknown)

/-- Filling a slot changes neither its settings nor its backend. -/
theorem fill (serves : registry.Serves config)
    (found : NameTable.get? name registry.slots = some slot) (connected : Option Opened) :
    (registry.fill name slot connected).Serves config := by
  refine ⟨serves.default, fun other => ?_, fun other filled => ?_⟩
  · rw [← serves.settings other, Registry.fill]
    by_cases same : other = name
    · rw [same, NameTable.get?_put_self, found]
      rfl
    · rw [NameTable.get?_put_of_ne same]
  · rw [Registry.fill]
    by_cases same : other = name
    · rw [same, NameTable.get?_put_self]
      rintro ⟨⟩
      exact serves.opens name slot found
    · rw [NameTable.get?_put_of_ne same]
      exact serves.opens other filled

theorem takeAll (serves : registry.Serves config) : registry.takeAll.2.Serves config := by
  refine ⟨serves.default, fun name => ?_, fun name slot found => ?_⟩
  · rw [get?_takeAll, Option.map_map, ← serves.settings name]
    rfl
  · rw [get?_takeAll] at found
    obtain ⟨former, present, rfl⟩ := Option.map_eq_some_iff.mp found
    exact serves.opens name former present

/-- A connection that is not configured cannot be opened, and nothing happens. -/
theorem connect_of_unknown (serves : registry.Serves config)
    (unknown : NameTable.get? name config.connections = none) :
    registry.connect name = (.error (.unknownConnection name), registry) := by
  unfold Registry.connect
  rw [find_of_none (serves.no_slot unknown)]

/-- A connection that is configured gets a driver, and all others stay as they were. -/
theorem exists_connect (serves : registry.Serves config) (configured : Configured config name) :
    ∃ driver last, registry.connect name = (.ok driver, last) ∧ last.Serves config ∧
      ∀ other, last.isConnected other = true ↔ other = name ∨ registry.isConnected other = true := by
  obtain ⟨settings, listed⟩ := configured
  obtain ⟨slot, found, _⟩ := serves.exists_slot listed
  unfold Registry.connect
  rw [find_of_some found]
  cases holder : slot.connected with
  | some driver =>
    refine ⟨driver, registry, rfl, serves, fun other => ⟨.inr, ?_⟩⟩
    rintro (rfl | already)
    · rw [isConnected_eq_isSome_driver?, driver?, found, Option.bind_some, holder]
      rfl
    · exact already
  | none =>
    obtain ⟨client, opening⟩ := serves.opens name slot found
    have numbered : Serves { registry with opened := registry.opened + 1 } config :=
      ⟨serves.default, serves.settings, serves.opens⟩
    have same : Registry.slot { registry with opened := registry.opened + 1 } name = .ok slot := by
      rw [Registry.slot, found]
    simp only [openWith, opening, install, same, holder]
    refine ⟨_, _, rfl, numbered.fill found _, fun other => ?_⟩
    rw [isConnected_eq_isSome_driver?, isConnected_eq_isSome_driver?, driver?_fill]
    split
    · rename_i equal
      exact ⟨fun _ => .inl equal, fun _ => rfl⟩
    · rename_i different
      exact ⟨.inr, fun either => either.resolve_left different⟩

theorem resolve (serves : registry.Serves config) (wanted : Option String) :
    registry.resolve wanted = wanted.getD config.default := by
  rw [Registry.resolve, serves.default]

/-- **Every call** leaves a registry that serves its configuration. -/
theorem respond (serves : registry.Serves config) (call : Call) :
    (registry.respond call).2.Serves config := by
  cases call with
  | acquire access wanted =>
    rw [Registry.respond, acquire]
    by_cases configured : Configured config (registry.resolve wanted)
    · obtain ⟨driver, last, connects, serving, _⟩ := serves.exists_connect configured
      rw [connects]
      exact serving
    · rw [serves.connect_of_unknown (not_configured_iff.mp configured)]
      exact serves
  | hasDriver driver wanted => exact serves
  | shutdown => exact serves.takeAll

/-- Access is given to the connections that are configured. -/
theorem acquire_ok_iff (serves : registry.Serves config) (access : Access) (wanted : Option String) :
    (∃ reply, (registry.respond (.acquire access wanted)).1 = .ok reply) ↔
      Configured config (wanted.getD config.default) := by
  rw [← serves.resolve wanted, Registry.respond, acquire]
  by_cases configured : Configured config (registry.resolve wanted)
  · obtain ⟨driver, last, connects, _⟩ := serves.exists_connect configured
    rw [connects]
    exact ⟨fun _ => configured, fun _ => ⟨_, rfl⟩⟩
  · rw [serves.connect_of_unknown (not_configured_iff.mp configured)]
    exact ⟨fun ⟨_, impossible⟩ => (nomatch impossible), fun named => absurd named configured⟩

/-- **A call about a connection that is not configured** fails and changes nothing. -/
theorem respond_of_unknown (serves : registry.Serves config) {call : Call} {wanted : Option String}
    (target : call.target? = some wanted)
    (unknown : ¬ Configured config (wanted.getD config.default)) :
    registry.respond call = (.error (.unknownConnection (wanted.getD config.default)), registry) := by
  rw [← serves.resolve wanted] at unknown ⊢
  have absent := not_configured_iff.mp unknown
  cases call with
  | acquire access name =>
    cases target
    rw [Registry.respond, acquire, serves.connect_of_unknown absent]
  | hasDriver driver name =>
    cases target
    simp only [Registry.respond, Registry.hasDriver, Registry.slot, serves.no_slot absent]
    rfl
  | shutdown => cases target

/-- Which driver a connection is configured with. -/
theorem respond_hasDriver (serves : registry.Serves config) {wanted : Option String}
    {settings : ConnectionConfig} (driver : String)
    (configured : NameTable.get? (wanted.getD config.default) config.connections = some settings) :
    registry.respond (.hasDriver driver wanted) = (.ok (.holds (settings.driver == driver)), registry) := by
  rw [← serves.resolve wanted] at configured
  obtain ⟨slot, found, rfl⟩ := serves.exists_slot configured
  simp only [Registry.respond, Registry.hasDriver, Registry.slot, found]
  rfl

/-- A call that names no connection is about the default one. -/
theorem resolve_none (serves : registry.Serves config) :
    registry.resolve none = registry.resolve (some config.default) := by
  rw [serves.resolve, serves.resolve]
  rfl

/-- **What a call does to the open connections.** A shutdown closes them; any other call keeps them, and
opens the one that it gets access to. -/
theorem isConnected_respond (serves : registry.Serves config) (call : Call) (name : String) :
    (registry.respond call).2.isConnected name = true ↔
      (call ≠ .shutdown ∧ registry.isConnected name = true) ∨ registry.Acquires call name := by
  cases call with
  | acquire access wanted =>
    have gains : registry.Acquires (.acquire access wanted) name ↔
        registry.resolve wanted = name ∧ Configured config (registry.resolve wanted) := by
      rw [serves.resolve wanted, ← serves.acquire_ok_iff access wanted, ← serves.resolve wanted]
      constructor
      · rintro ⟨_, _, reply, ⟨⟩, same, gives⟩
        exact ⟨same, reply, gives⟩
      · rintro ⟨same, reply, gives⟩
        exact ⟨access, wanted, reply, rfl, same, gives⟩
    rw [gains, Registry.respond, acquire]
    by_cases configured : Configured config (registry.resolve wanted)
    · obtain ⟨driver, last, connects, _, connected⟩ := serves.exists_connect configured
      rw [connects, connected]
      constructor
      · rintro (rfl | already)
        · exact .inr ⟨rfl, configured⟩
        · exact .inl ⟨nofun, already⟩
      · rintro (⟨_, already⟩ | ⟨same, _⟩)
        · exact .inr already
        · exact .inl same.symm
    · rw [serves.connect_of_unknown (not_configured_iff.mp configured)]
      exact ⟨fun already => .inl ⟨nofun, already⟩,
        fun either => either.elim And.right fun gained => absurd gained.2 configured⟩
  | hasDriver driver wanted =>
    exact ⟨fun already => .inl ⟨nofun, already⟩,
      fun either => either.elim And.right fun ⟨_, _, _, different, _⟩ => (nomatch different)⟩
  | shutdown =>
    have none : (registry.respond .shutdown).2.isConnected name = false := isConnected_takeAll _ _
    rw [none]
    exact ⟨nofun, fun either => either.elim (fun kept => absurd rfl kept.1)
      fun ⟨_, _, _, different, _⟩ => (nomatch different)⟩

theorem after (serves : registry.Serves config) (calls : List Call) :
    (registry.after calls).Serves config := by
  induction calls generalizing registry with
  | nil => exact serves
  | cons call rest hypothesis => exact hypothesis (serves.respond call)

end Serves

/-- The calls that get access, when one more comes first. -/
theorem acquiredIn_cons (call : Call) (rest : List Call) :
    registry.AcquiredIn (call :: rest) name ↔
      (.shutdown ∉ rest ∧ registry.Acquires call name) ∨
        (registry.respond call).2.AcquiredIn rest name := by
  constructor
  · rintro ⟨earlier, gaining, later, split, undisturbed, gains⟩
    cases earlier with
    | nil =>
      cases split
      exact .inl ⟨undisturbed, gains⟩
    | cons first earlier =>
      cases split
      exact .inr ⟨earlier, gaining, later, rfl, undisturbed, gains⟩
  · rintro (⟨undisturbed, gains⟩ | ⟨earlier, gaining, later, rfl, undisturbed, gains⟩)
    · exact ⟨[], call, rest, rfl, undisturbed, gains⟩
    · exact ⟨call :: earlier, gaining, later, rfl, undisturbed, gains⟩

/-- **What any calls do to the open connections.** Those that were open stay so up to a shutdown, and
others are open if they were asked for since. -/
theorem isConnected_after (serves : registry.Serves config) (calls : List Call) :
    (registry.after calls).isConnected name = true ↔
      (.shutdown ∉ calls ∧ registry.isConnected name = true) ∨ registry.AcquiredIn calls name := by
  induction calls generalizing registry with
  | nil =>
    have none : ¬ registry.AcquiredIn [] name := by
      rintro ⟨earlier, call, later, split, _⟩
      cases earlier <;> cases split
    exact ⟨fun already => .inl ⟨List.not_mem_nil, already⟩,
      fun either => either.elim And.right fun gained => absurd gained none⟩
  | cons call rest hypothesis =>
    have step := serves.isConnected_respond call name
    have next := hypothesis (serves.respond call)
    rw [acquiredIn_cons, List.mem_cons, not_or]
    rw [step] at next
    refine next.trans ⟨?_, ?_⟩
    · rintro (⟨undisturbed, ⟨kept, already⟩ | gains⟩ | gained)
      · exact .inl ⟨⟨Ne.symm kept, undisturbed⟩, already⟩
      · exact .inr (.inl ⟨undisturbed, gains⟩)
      · exact .inr (.inr gained)
    · rintro (⟨⟨kept, undisturbed⟩, already⟩ | ⟨undisturbed, gains⟩ | gained)
      · exact .inl ⟨undisturbed, .inl ⟨Ne.symm kept, already⟩⟩
      · exact .inl ⟨undisturbed, .inr gains⟩
      · exact .inr gained

end Steps

/-! ### The start -/

section Boot

variable {drivers : DriverTable} {config : DatabaseConfig} {registry : Registry} {name : String}

/-- Every connection with a known driver gets a slot, with nothing open. -/
theorem exists_register {entries : List (String × ConnectionConfig)}
    (known : ∀ entry ∈ entries, drivers.knows entry.2.driver = true)
    (opens : Opens drivers entries) :
    ∃ slots, register drivers entries = .ok slots ∧
      (∀ name, (NameTable.get? name slots).map Slot.config = NameTable.get? name entries) ∧
      ∀ name slot, NameTable.get? name slots = some slot →
        slot.connected = none ∧ ∃ client, slot.backend.opening = .ok client := by
  induction entries with
  | nil => exact ⟨[], rfl, fun _ => rfl, fun _ _ found => by cases found⟩
  | cons entry rest hypothesis =>
    obtain ⟨name, settings⟩ := entry
    have listed : drivers.knows settings.driver = true := known _ List.mem_cons_self
    obtain ⟨factory, listed⟩ := Option.isSome_iff_exists.mp listed
    obtain ⟨backend, client, makes, opening⟩ := opens _ List.mem_cons_self factory listed
    obtain ⟨slots, registers, configs, fresh⟩ :=
      hypothesis (fun entry member => known entry (List.mem_cons_of_mem _ member))
        fun entry member => opens entry (List.mem_cons_of_mem _ member)
    have made : drivers.backend settings = .ok backend := by
      simp only [DriverTable.backend, listed, makes]
    refine ⟨(name, ⟨settings, backend, none⟩) :: slots, ?_, fun other => ?_, fun other slot => ?_⟩
    · rw [register, made, registers]
      rfl
    · rw [NameTable.get?, NameTable.get?, ← configs other]
      split <;> rfl
    · rw [NameTable.get?]
      split
      · rintro ⟨⟩
        exact ⟨rfl, client, opening⟩
      · exact fresh other slot

/-- Connections that are configured are opened one after the other. -/
theorem exists_connectAll (serves : registry.Serves config) {names : List String}
    (configured : ∀ name ∈ names, Configured config name) :
    ∃ last, registry.connectAll names = (.ok (), last) ∧ last.Serves config ∧
      ∀ other, last.isConnected other = true ↔ other ∈ names ∨ registry.isConnected other = true := by
  induction names generalizing registry with
  | nil => exact ⟨registry, rfl, serves, by simp⟩
  | cons name rest hypothesis =>
    obtain ⟨driver, next, connects, serving, connected⟩ :=
      serves.exists_connect (configured name List.mem_cons_self)
    obtain ⟨last, remaining, kept, reached⟩ :=
      hypothesis serving fun other member => configured other (List.mem_cons_of_mem _ member)
    refine ⟨last, ?_, kept, fun other => ?_⟩
    · rw [connectAll, connects]
      exact remaining
    · rw [reached, connected, List.mem_cons, or_left_comm, or_assoc]

theorem isNone_get?_iff :
    (NameTable.get? name config.connections).isNone = true ↔ ¬ Configured config name := by
  rw [not_configured_iff, Option.isNone_iff_eq_none]

/-- The first connection that is to be opened and not configured is reported. -/
theorem validate_of_unknown (knows : String → Bool) {earlier later : List String}
    (split : config.default :: config.keepAlive = earlier ++ name :: later)
    (configured : ∀ other ∈ earlier, Configured config other) (unknown : ¬ Configured config name) :
    config.validate knows = .error (.unknownConnection name) := by
  have first : (config.default :: config.keepAlive).find?
      (fun name => (NameTable.get? name config.connections).isNone) = some name := by
    refine List.find?_eq_some_iff_append.mpr
      ⟨isNone_get?_iff.mpr unknown, earlier, later, split, fun other member => ?_⟩
    rw [Bool.not_eq_true', Bool.eq_false_iff, Ne, isNone_get?_iff, not_not]
    exact configured other member
  rw [DatabaseConfig.validate, first]

/-- No connection that is to be opened is reported when all of them are configured. -/
theorem find?_isNone_of_configured
    (configured : ∀ name ∈ config.default :: config.keepAlive, Configured config name) :
    (config.default :: config.keepAlive).find?
      (fun name => (NameTable.get? name config.connections).isNone) = none :=
  List.find?_eq_none.mpr fun name member => mt isNone_get?_iff.mp (not_not.mpr (configured name member))

/-- The first unknown driver is reported when all connections that are to be opened are configured. -/
theorem validate_of_unknown_driver {knows : String → Bool}
    {earlier later : List (String × ConnectionConfig)} {entry : String × ConnectionConfig}
    (configured : ∀ name ∈ config.default :: config.keepAlive, Configured config name)
    (split : config.connections = earlier ++ entry :: later)
    (known : ∀ other ∈ earlier, knows other.2.driver = true) (unknown : knows entry.2.driver = false) :
    config.validate knows = .error (.unknownDriver entry.2.driver) := by
  have first : config.connections.find? (fun entry => !knows entry.2.driver) = some entry := by
    refine List.find?_eq_some_iff_append.mpr
      ⟨by rw [unknown]; rfl, earlier, later, split, fun other member => ?_⟩
    rw [known other member]
    rfl
  simp only [DatabaseConfig.validate, find?_isNone_of_configured configured, first]

/-- What the check of a configuration asks for. -/
theorem validate_eq_ok_iff {knows : String → Bool} :
    config.validate knows = .ok () ↔
      (∀ name ∈ config.default :: config.keepAlive, Configured config name) ∧
        ∀ entry ∈ config.connections, knows entry.2.driver = true := by
  rw [DatabaseConfig.validate]
  constructor
  · intro valid
    split at valid
    · cases valid
    · rename_i configured
      split at valid
      · cases valid
      · rename_i known
        refine ⟨fun name member => ?_, fun entry member => ?_⟩
        · exact not_not.mp (mt isNone_get?_iff.mpr (List.find?_eq_none.mp configured name member))
        · simpa using List.find?_eq_none.mp known entry member
  · rintro ⟨configured, known⟩
    have none : config.connections.find? (fun entry => !knows entry.2.driver) = none :=
      List.find?_eq_none.mpr fun entry member => by simp [known entry member]
    simp only [find?_isNone_of_configured configured, none]

theorem boot_of_invalid {error : DatabaseError}
    (invalid : config.validate drivers.knows = .error error) : boot drivers config = .error error := by
  rw [boot, invalid]
  rfl

/-- **A valid configuration** boots, with its default connection and those to keep alive open. -/
theorem exists_boot (opens : Opens drivers config.connections)
    (configured : ∀ name ∈ config.default :: config.keepAlive, Configured config name)
    (known : ∀ entry ∈ config.connections, drivers.knows entry.2.driver = true) :
    ∃ registry, boot drivers config = .ok registry ∧ registry.Serves config ∧
      ∀ name, registry.isConnected name = true ↔ name ∈ config.default :: config.keepAlive := by
  have valid := validate_eq_ok_iff.mpr ⟨configured, known⟩
  obtain ⟨slots, registers, settings, fresh⟩ := exists_register known opens
  have serves : Serves ⟨config.default, slots, 0⟩ config :=
    ⟨rfl, settings, fun name slot found => (fresh name slot found).2⟩
  have closed (name : String) : isConnected ⟨config.default, slots, 0⟩ name = false := by
    rw [isConnected]
    cases found : NameTable.get? name slots with
    | none => rfl
    | some slot =>
      rw [Option.any_some, (fresh name slot found).1]
      rfl
  obtain ⟨last, connects, serving, connected⟩ := exists_connectAll serves configured
  refine ⟨last, ?_, serving, fun name => ?_⟩
  · refine bind_eq_ok.mpr ⟨(), valid, bind_eq_ok.mpr ⟨slots, registers, ?_⟩⟩
    rw [connects]
    rfl
  · rw [connected, closed]
    exact or_iff_left Bool.false_ne_true

/-- **When a registry boots**: exactly if all connections to open are configured and all drivers known. -/
theorem boot_ok_iff (opens : Opens drivers config.connections) :
    (∃ registry, boot drivers config = .ok registry) ↔
      (∀ name ∈ config.default :: config.keepAlive, Configured config name) ∧
        ∀ entry ∈ config.connections, drivers.knows entry.2.driver = true := by
  constructor
  · rintro ⟨registry, boots⟩
    obtain ⟨_, valid, _⟩ := bind_eq_ok.mp boots
    exact validate_eq_ok_iff.mp valid
  · rintro ⟨configured, known⟩
    obtain ⟨registry, boots, _⟩ := exists_boot opens configured known
    exact ⟨registry, boots⟩

end Boot

/-- **What is open, and what calls come to, after a list of calls on a registry that was booted.** -/
structure FollowsCalls (config : DatabaseConfig) (registry : Registry) (calls : List Call) : Prop where
  /-- Open are the default connection and those to keep alive if nothing was shut down, and the connections
  that access was given to since the last shutdown. -/
  connected (name : String) :
    (registry.after calls).isConnected name = true ↔
      (name ∈ config.default :: config.keepAlive ∧ .shutdown ∉ calls) ∨ registry.AcquiredIn calls name
  /-- Access is given to what is configured. -/
  acquires (access : Access) (wanted : Option String) :
    (∃ reply, ((registry.after calls).respond (.acquire access wanted)).1 = .ok reply) ↔
      Configured config (wanted.getD config.default)
  /-- A call about anything else fails and changes nothing. -/
  rejects (call : Call) (wanted : Option String) (target : call.target? = some wanted)
    (unknown : ¬ Configured config (wanted.getD config.default)) :
    (registry.after calls).respond call =
      (.error (.unknownConnection (wanted.getD config.default)), registry.after calls)
  /-- Asking for the driver of a connection opens nothing. -/
  asks (driver : String) (wanted : Option String) :
    ((registry.after calls).respond (.hasDriver driver wanted)).2 = registry.after calls ∧
      ∀ settings, NameTable.get? (wanted.getD config.default) config.connections = some settings →
        ((registry.after calls).respond (.hasDriver driver wanted)).1 =
          .ok (.holds (settings.driver == driver))
  /-- A call that names no connection is about the default one. -/
  acquiresDefault (access : Access) :
    (registry.after calls).respond (.acquire access none) =
      (registry.after calls).respond (.acquire access (some config.default))
  asksDefault (driver : String) :
    (registry.after calls).respond (.hasDriver driver none) =
      (registry.after calls).respond (.hasDriver driver (some config.default))
  /-- Nothing is open after a shutdown, whatever it comes to. -/
  closes (result : Except DatabaseError Reply) (last : Registry)
    (stops : (registry.after calls).respond .shutdown = (result, last)) (name : String) :
    last.isConnected name = false

/-- **Connections are open exactly since they were asked for.** If everything configured can be opened:
* a registry boots exactly if the connections to open are configured and all drivers are known, and the
  first missing connection is reported before any unknown driver;
* after any calls on it, a connection is open if it was opened at the start and nothing was shut down, or
  if access to it was given since the last shutdown. -/
theorem connected_since_shutdown {drivers : DriverTable} {config : DatabaseConfig}
    (opens : Opens drivers config.connections) :
    ((∃ registry, boot drivers config = .ok registry) ↔
      (∀ name ∈ config.default :: config.keepAlive, Configured config name) ∧
        ∀ entry ∈ config.connections, drivers.knows entry.2.driver = true) ∧
    (∀ earlier name later, config.default :: config.keepAlive = earlier ++ name :: later →
      (∀ other ∈ earlier, Configured config other) → ¬ Configured config name →
        boot drivers config = .error (.unknownConnection name)) ∧
    (∀ earlier entry later, (∀ name ∈ config.default :: config.keepAlive, Configured config name) →
      config.connections = earlier ++ entry :: later →
      (∀ other ∈ earlier, drivers.knows other.2.driver = true) → drivers.knows entry.2.driver = false →
        boot drivers config = .error (.unknownDriver entry.2.driver)) ∧
    ∀ registry, boot drivers config = .ok registry → ∀ calls, FollowsCalls config registry calls := by
  refine ⟨boot_ok_iff opens, fun earlier name later split configured unknown => ?_,
    fun earlier entry later configured split known unknown => ?_, fun registry boots calls => ?_⟩
  · exact boot_of_invalid (validate_of_unknown _ split configured unknown)
  · exact boot_of_invalid (validate_of_unknown_driver configured split known unknown)
  · obtain ⟨configured, known⟩ := (boot_ok_iff opens).mp ⟨registry, boots⟩
    obtain ⟨same, again, serves, started⟩ := exists_boot opens configured known
    obtain rfl : same = registry := Except.ok.inj (again.symm.trans boots)
    have now := serves.after calls
    constructor
    · intro name
      rw [isConnected_after serves, started, and_comm]
    · exact now.acquire_ok_iff
    · exact fun call wanted target unknown => now.respond_of_unknown target unknown
    · exact fun driver wanted => ⟨rfl, fun settings configured =>
        congrArg Prod.fst (now.respond_hasDriver driver configured)⟩
    · intro access
      simp only [respond, acquire, now.resolve_none]
    · intro driver
      simp only [respond, Registry.hasDriver, now.resolve_none]
    · rintro result last stops name
      obtain rfl : _ = last := congrArg Prod.snd stops
      exact isConnected_takeAll _ name

/-- Drivers of which one cannot be closed. -/
def stubborn : DriverTable :=
  DriverTable.register "stuck"
    (fun _ => .ok ⟨.relational, "StuckDriverBuilder",
      .ok ⟨.sql .sqlite, .error (.backend "connection is stuck")⟩⟩) .standard

/-- A default connection that cannot be closed, one to keep alive, and one that waits to be used. -/
def harbour : DatabaseConfig :=
  ⟨"main", ["docs"], [("docs", .memory), ("lazy", .memory), ("main", .ofDriver "stuck")]⟩

/-- Calls with a shutdown that fails among them. -/
def visits : List Call :=
  [.acquire .documents (some "lazy"), .shutdown, .hasDriver "memory" (some "docs"), .acquire .tables none,
    .acquire .client (some "none")]

/-- The harbour boots. A shutdown there fails, and only the default connection is open after the visits. -/
theorem connected_since_shutdown_harbour :
    Opens stubborn harbour.connections ∧ ∃ registry, boot stubborn harbour = .ok registry ∧
      (registry.respond .shutdown).1.isOk = false ∧ FollowsCalls harbour registry visits ∧
      ["docs", "lazy", "main"].map (registry.after visits).isConnected = [false, false, true] := by
  have opens : Opens stubborn harbour.connections := by
    intro entry member factory found
    simp only [harbour, List.mem_cons, List.not_mem_nil, or_false] at member
    rcases member with rfl | rfl | rfl
    · cases found
      exact ⟨_, _, rfl, rfl⟩
    · cases found
      exact ⟨_, _, rfl, rfl⟩
    · cases found
      exact ⟨_, _, rfl, rfl⟩
  exact ⟨opens, _, rfl, rfl, (connected_since_shutdown opens).2.2.2 _ rfl visits, rfl⟩

end Polystore.Registry
