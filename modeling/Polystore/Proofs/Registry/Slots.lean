/-
**The drivers in the slots of a registry.**

* `perm_held_fill`, `driver?_fill`: a slot without a driver gets one;
* `held_takeAll`, `driver?_takeAll`: all slots lose theirs;
* `isSound_boot`: a registry that was booted holds different drivers.
-/

import Mathlib.Data.List.Nodup
import Mathlib.Data.List.Perm.Basic
import Polystore.Registry.Basic

namespace Polystore.Registry

/-- The driver in the slot of a connection. -/
def driver? (registry : Registry) (name : String) : Option Opened :=
  (NameTable.get? name registry.slots).bind Slot.connected

/-- The drivers in the slots. -/
def held (registry : Registry) : List Opened := registry.slots.filterMap (·.2.connected)

/-- Whether a connection is configured. -/
def knows (registry : Registry) (name : String) : Bool := (NameTable.get? name registry.slots).isSome

/-- **Whether the drivers in the slots are different ones**, all of them opened before. -/
structure IsSound (registry : Registry) : Prop where
  numbered : (registry.held.map Opened.number).Nodup
  bounded : ∀ driver ∈ registry.held, driver.number < registry.opened

section Slots

variable {registry : Registry} {name other : String} {slot : Slot} {driver : Opened}

/-- Writing an entry over one without a driver puts the driver beside those that are there. -/
theorem perm_filterMap_put {slots : NameTable Slot} (found : NameTable.get? name slots = some slot)
    (vacant : slot.connected = none) (entry : Slot) (connected : entry.connected = some driver) :
    ((NameTable.put name entry slots).filterMap (·.2.connected)).Perm
      (driver :: slots.filterMap (·.2.connected)) := by
  induction slots with
  | nil => cases found
  | cons first rest hypothesis =>
    obtain ⟨former, old⟩ := first
    rw [NameTable.get?] at found
    rw [NameTable.put]
    by_cases same : former = name
    · rw [if_pos same] at found
      cases found
      simp only [if_pos same, List.filterMap_cons, connected, vacant, List.Perm.refl]
    · rw [if_neg same] at found
      rw [if_neg same]
      by_cases before : name < former
      · simp only [if_pos before, List.filterMap_cons, connected, List.Perm.refl]
      · rw [if_neg before]
        cases holder : old.connected with
        | none =>
          simp only [List.filterMap_cons, holder]
          exact hypothesis found
        | some present =>
          simp only [List.filterMap_cons, holder]
          exact ((hypothesis found).cons present).trans (.swap _ _ _)

theorem perm_held_fill (found : NameTable.get? name registry.slots = some slot)
    (vacant : slot.connected = none) :
    (registry.fill name slot (some driver)).held.Perm (driver :: registry.held) :=
  perm_filterMap_put found vacant _ rfl

theorem driver?_fill (name other : String) (slot : Slot) (connected : Option Opened) :
    (registry.fill name slot connected).driver? other =
      if other = name then connected else registry.driver? other := by
  unfold driver? fill
  split
  · rename_i same
    rw [same, NameTable.get?_put_self]
    rfl
  · rename_i different
    rw [NameTable.get?_put_of_ne different]

theorem knows_fill (known : registry.knows other = true) (connected : Option Opened) :
    (registry.fill name slot connected).knows other = true := by
  unfold knows fill at *
  by_cases same : other = name
  · rw [same, NameTable.get?_put_self]
    rfl
  · rw [NameTable.get?_put_of_ne same]
    exact known

theorem find_of_none (unknown : NameTable.get? name registry.slots = none) :
    registry.find name = .error (.unknownConnection name) := by
  simp only [find, Registry.slot, unknown]
  rfl

theorem find_of_some (found : NameTable.get? name registry.slots = some slot) :
    registry.find name =
      .ok (match slot.connected with
        | some opened => .connected opened
        | none => .closed slot.backend) := by
  simp only [find, Registry.slot, found]
  rfl

/-- All slots stay, without their drivers. -/
theorem get?_takeAll (registry : Registry) (name : String) :
    NameTable.get? name registry.takeAll.2.slots =
      (NameTable.get? name registry.slots).map fun slot => { slot with connected := none } := by
  show NameTable.get? name (registry.slots.map _) = _
  induction registry.slots with
  | nil => rfl
  | cons first rest hypothesis =>
    obtain ⟨other, slot⟩ := first
    rw [List.map_cons, NameTable.get?, NameTable.get?, hypothesis]
    split <;> rfl

theorem held_takeAll (registry : Registry) : registry.takeAll.2.held = [] := by
  show (registry.slots.map _).filterMap _ = _
  rw [List.filterMap_map]
  exact List.filterMap_eq_nil_iff.mpr fun _ _ => rfl

theorem driver?_takeAll (registry : Registry) (name : String) :
    registry.takeAll.2.driver? name = none := by
  unfold driver?
  rw [get?_takeAll]
  cases NameTable.get? name registry.slots <;> rfl

theorem knows_takeAll (registry : Registry) (name : String) :
    registry.takeAll.2.knows name = registry.knows name := by
  unfold knows
  rw [get?_takeAll, Option.isSome_map]

end Slots

/-! ### Registries that were booted -/

/-- Connecting adds a driver with the next number, if it adds one. -/
theorem IsSound.connect {registry : Registry} (sound : registry.IsSound) (name : String) :
    (registry.connect name).2.IsSound := by
  unfold Registry.connect
  cases found : NameTable.get? name registry.slots with
  | none =>
    rw [find_of_none found]
    exact sound
  | some slot =>
    rw [find_of_some found]
    cases holder : slot.connected with
    | some driver => exact sound
    | none =>
      cases opening : slot.backend.opening with
      | error error =>
        simp only [openWith, opening]
        exact sound
      | ok client =>
        have listed : Registry.slot { registry with opened := registry.opened + 1 } name = .ok slot := by
          rw [Registry.slot, found]
        simp only [openWith, opening, install, listed, holder]
        have held : (Registry.fill { registry with opened := registry.opened + 1 } name slot
            (some ⟨registry.opened, client⟩)).held.Perm (⟨registry.opened, client⟩ :: registry.held) :=
          perm_filterMap_put found holder _ rfl
        constructor
        · refine (held.map Opened.number).nodup_iff.mpr (List.nodup_cons.mpr ⟨?_, sound.numbered⟩)
          intro member
          obtain ⟨other, listed, same⟩ := List.mem_map.mp member
          have less := sound.bounded other listed
          have same : other.number = registry.opened := same
          omega
        · intro driver member
          show driver.number < registry.opened + 1
          rcases List.mem_cons.mp (held.mem_iff.mp member) with rfl | earlier
          · exact Nat.lt_succ_self _
          · exact Nat.lt_succ_of_lt (sound.bounded driver earlier)

theorem IsSound.connectAll {registry : Registry} (sound : registry.IsSound) (names : List String) :
    (registry.connectAll names).2.IsSound := by
  induction names generalizing registry with
  | nil => exact sound
  | cons name rest hypothesis =>
    have next := sound.connect name
    rw [Registry.connectAll]
    cases connected : registry.connect name with
    | mk result later =>
      rw [connected] at next
      cases result with
      | ok driver => exact hypothesis next
      | error error => exact next

/-- Configured connections are not connected. -/
theorem held_register {drivers : DriverTable} {configs : List (String × ConnectionConfig)}
    {slots : NameTable Slot} (registers : register drivers configs = .ok slots) :
    slots.filterMap (·.2.connected) = [] := by
  induction configs generalizing slots with
  | nil =>
    cases registers
    rfl
  | cons entry rest hypothesis =>
    obtain ⟨name, config⟩ := entry
    obtain ⟨backend, _, remaining⟩ := bind_eq_ok.mp registers
    obtain ⟨others, more, whole⟩ := bind_eq_ok.mp remaining
    cases whole
    show others.filterMap (·.2.connected) = []
    exact hypothesis more

/-- **A registry that was booted** holds different drivers. -/
theorem isSound_boot {drivers : DriverTable} {config : DatabaseConfig} {registry : Registry}
    (boots : boot drivers config = .ok registry) : registry.IsSound := by
  obtain ⟨_, _, registering⟩ := bind_eq_ok.mp boots
  obtain ⟨slots, registers, connects⟩ := bind_eq_ok.mp registering
  have none : (Registry.mk config.default slots 0).held = [] := held_register registers
  have fresh : (Registry.mk config.default slots 0).IsSound := by
    constructor
    · rw [none]
      exact List.nodup_nil
    · rw [none]
      exact fun _ member => (nomatch member)
  have whole := fresh.connectAll (config.default :: config.keepAlive)
  generalize Registry.connectAll ⟨config.default, slots, 0⟩ (config.default :: config.keepAlive) =
    connected at connects whole
  obtain ⟨_ | _, last⟩ := connected
  · cases connects
  · cases connects
    exact whole

end Polystore.Registry
