/-
**Named connections and when they are open.**

A `Registry` has a slot for every configured connection. Connecting looks the slot up, opens a driver
without holding the registry, and then installs it: `Registry.find`, `Backend.opening` and
`Registry.install` are the three steps, and a slot that was filled in between keeps its driver.
Shutting down empties all slots at once and then closes what was in them.
-/

import Polystore.Registry.Backend

namespace Polystore

/-- An opened driver with the number it was given. -/
structure Opened where
  number : Nat
  client : Client

/-- A configured connection. -/
structure Slot where
  config : ConnectionConfig
  backend : Backend
  connected : Option Opened

/-- All configured connections. -/
structure Registry where
  default : String
  slots : NameTable Slot
  /-- How many drivers were opened. -/
  opened : Nat

namespace Registry

/-- The name of the wanted connection, which is the default one if none is named. -/
def resolve (registry : Registry) (name : Option String) : String := name.getD registry.default

/-- The slot of a connection. -/
def slot (registry : Registry) (name : String) : Except DatabaseError Slot :=
  match NameTable.get? name registry.slots with
  | some slot => .ok slot
  | none => .error (.unknownConnection name)

/-- What a look at a slot finds: the driver in it, or how to open one. -/
inductive Finding where
  | connected (opened : Opened)
  | closed (backend : Backend)

/-- Looks for the driver of a connection. -/
def find (registry : Registry) (name : String) : Except DatabaseError Finding := do
  let slot ← registry.slot name
  return match slot.connected with
    | some opened => .connected opened
    | none => .closed slot.backend

/-- Opens a driver and numbers it. -/
def openWith (registry : Registry) (backend : Backend) : Except DatabaseError Opened × Registry :=
  match backend.opening with
  | .ok client => (.ok ⟨registry.opened, client⟩, { registry with opened := registry.opened + 1 })
  | .error error => (.error error, registry)

/-- Replaces what stands in the slot of a connection. -/
def fill (registry : Registry) (name : String) (slot : Slot) (connected : Option Opened) : Registry :=
  { registry with slots := NameTable.put name { slot with connected } registry.slots }

/-- Puts an opened driver into its slot unless there is one already. Gives the driver in the slot. -/
def install (registry : Registry) (name : String) (opened : Opened) :
    Except DatabaseError Opened × Registry :=
  match registry.slot name with
  | .error error => (.error error, registry)
  | .ok slot =>
    match slot.connected with
    | some existing => (.ok existing, registry)
    | none => (.ok opened, registry.fill name slot (some opened))

/-- The driver of a connection, opened if need be. -/
def connect (registry : Registry) (name : String) : Except DatabaseError Opened × Registry :=
  match registry.find name with
  | .error error => (.error error, registry)
  | .ok (.connected opened) => (.ok opened, registry)
  | .ok (.closed backend) =>
    match registry.openWith backend with
    | (.ok opened, registry) => registry.install name opened
    | (.error error, registry) => (.error error, registry)

/-- Connects one after the other, up to the first failure. -/
def connectAll (registry : Registry) : List String → Except DatabaseError Unit × Registry
  | [] => (.ok (), registry)
  | name :: rest =>
    match registry.connect name with
    | (.ok _, registry) => registry.connectAll rest
    | (.error error, registry) => (.error error, registry)

/-- The slots of configured connections, none of them connected. -/
def register (drivers : DriverTable) :
    List (String × ConnectionConfig) → Except DatabaseError (NameTable Slot)
  | [] => .ok []
  | (name, config) :: rest => do
    let backend ← drivers.backend config
    let others ← register drivers rest
    return (name, ⟨config, backend, none⟩) :: others

/-- The registry of a configuration, with the default connection and those to keep alive open. -/
def boot (drivers : DriverTable) (config : DatabaseConfig) : Except DatabaseError Registry := do
  config.validate drivers.knows
  let slots ← register drivers config.connections
  match Registry.connectAll ⟨config.default, slots, 0⟩ (config.default :: config.keepAlive) with
  | (.ok _, registry) => return registry
  | (.error error, _) => throw error

/-- The names of all connections, in order. -/
def names (registry : Registry) : List String := NameTable.names registry.slots

/-- Whether a connection is open. -/
def isConnected (registry : Registry) (name : String) : Bool :=
  (NameTable.get? name registry.slots).any (·.connected.isSome)

/-- Whether a connection is configured with the driver of the given name. -/
def hasDriver (registry : Registry) (driver : String) (name : Option String) :
    Except DatabaseError Bool := do
  return (← registry.slot (registry.resolve name)).config.driver == driver

/-- Takes all drivers out of their slots. -/
def takeAll (registry : Registry) : List Opened × Registry :=
  (registry.slots.filterMap (·.2.connected),
    { registry with
      slots := registry.slots.map fun (name, slot) => (name, { slot with connected := none }) })

/-- What closing drivers comes to: the first failure among them. -/
def closing : List Opened → Except DatabaseError Unit
  | [] => .ok ()
  | opened :: rest =>
    match opened.client.closing with
    | .ok _ => closing rest
    | .error error => .error error

/-- Closes all drivers. A failure keeps none of them open. -/
def shutdown (registry : Registry) : Except DatabaseError Unit × Registry :=
  let (taken, registry) := registry.takeAll
  (closing taken, registry)

/-- The registry after work on the driver of a connection. -/
def update (registry : Registry) (name : String) (native : NativeClient) : Registry :=
  match NameTable.get? name registry.slots with
  | some slot =>
    registry.fill name slot
      (slot.connected.map fun opened => { opened with client := { opened.client with native } })
  | none => registry

end Registry

end Polystore
