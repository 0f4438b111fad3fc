/-
The history of a registry.

A registry starts empty, and what has been registered stays as it was made.  So
the units of a registry are the registrations that succeeded, newest first
(`entries_of_history`), and every lookup is a question about them: which shared
handle a name has, and which factory a unit of work on that name uses.

Nothing is said here about the identities that shared handles are given; they come
from outside.
-/
import Demarcation.Proofs.Bindings

namespace Demarcation

/-- An attempt to register a factory under a name, and the reply. -/
structure Registration where
  name : String
  factory : FactoryId
  reply : Except Failure SharedHandle

/-- The unit that a registration enters under its name, if it succeeds. -/
def Registration.unit? (r : Registration) : Option (String × RegisteredUnit) :=
  match r.reply with
  | .ok shared => some (r.name, ⟨r.factory, shared⟩)
  | .error _ => none

/-- The units that registrations enter, oldest first. -/
def unitsOf (registrations : List Registration) : List (String × RegisteredUnit) :=
  registrations.filterMap Registration.unit?

/-- The names that have been registered, with their factories. -/
def entriesOf (registrations : List Registration) : List (String × FactoryId) :=
  (unitsOf registrations).map (Prod.map id RegisteredUnit.factory)

/-- The name stands for the factory: it has been registered under this name, or the
name is the default one, is not registered, and this is the only registration. -/
def Designates (registrations : List Registration) (name : String) (factory : FactoryId) : Prop :=
  (name, factory) ∈ entriesOf registrations ∨
    (name = defaultUnitName ∧ (∀ other, (name, other) ∉ entriesOf registrations) ∧
      ∃ sole, entriesOf registrations = [(sole, factory)])

section Entries

variable {registrations : List Registration} {name : String} {factory : FactoryId}
  {unit : RegisteredUnit}

theorem mem_unitsOf :
    (name, unit) ∈ unitsOf registrations ↔
      ∃ r ∈ registrations, r.name = name ∧ r.factory = unit.factory ∧
        r.reply = .ok unit.shared := by
  rw [unitsOf, List.mem_filterMap]
  refine exists_congr fun r => and_congr_right fun _ => ?_
  rw [Registration.unit?]
  cases r.reply with
  | error failure => simp
  | ok shared =>
      obtain ⟨own, kept⟩ := unit
      simp

theorem mem_entriesOf :
    (name, factory) ∈ entriesOf registrations ↔
      ∃ shared, (name, ⟨factory, shared⟩) ∈ unitsOf registrations := by
  rw [entriesOf, List.mem_map]
  constructor
  · rintro ⟨⟨name, unit⟩, hmem, ⟨⟩⟩
    exact ⟨unit.shared, hmem⟩
  · rintro ⟨shared, hmem⟩
    exact ⟨_, hmem, rfl⟩

end Entries

namespace Registry

/-- A name that is not registered stands for a factory if it is the default one, and the
factory is the only one. -/
theorem resolve_iff_of_free {registry : Registry} {name : String} {factory : FactoryId}
    (hfree : registry.units.find? name = none) :
    registry.resolve name = .ok factory ↔
      name = defaultUnitName ∧ registry.sole? = some factory := by
  rw [resolve, hfree]
  by_cases hname : name = defaultUnitName
  · cases hsole : registry.sole? with
    | none => simp [hname]
    | some sole => simp [hname]
  · simp [hname]

/-- What an attempt makes of a registry: nothing, if it fails. -/
inductive Registers (before : Registry) : Registration → Registry → Prop where
  | made {name : String} {factory : FactoryId} {made : SharedId → SharedHandle × Registry}
      (registers : before.register name factory = .ok made) (id : SharedId) :
      Registers before ⟨name, factory, .ok (made id).1⟩ (made id).2
  | refused {name : String} {factory : FactoryId} {failure : Failure}
      (refuses : before.register name factory = .error failure) :
      Registers before ⟨name, factory, .error failure⟩ before

/-- The registry with one more unit. -/
def entering (registry : Registry) (name : String) (unit : RegisteredUnit) : Registry :=
  { registry with units := registry.units.insert name unit }

variable {before registry after : Registry} {name : String} {factory : FactoryId}
  {shared : SharedHandle} {unit : RegisteredUnit} {r : Registration}
  {registrations : List Registration}

/-- A registration succeeds if the name is not taken, and enters one unit. -/
theorem register_eq_ok_iff {made : SharedId → SharedHandle × Registry} :
    before.register name factory = .ok made ↔
      before.units.find? name = none ∧
        made = fun id =>
          (⟨id, name, factory⟩, before.entering name ⟨factory, ⟨id, name, factory⟩⟩) := by
  rw [register, Table.contains]
  cases hfound : before.units.find? name with
  | none =>
      rw [Option.isSome_none, if_neg Bool.false_ne_true, Except.ok.injEq, and_iff_right rfl,
        eq_comm]
      rfl
  | some taken =>
      rw [Option.isSome_some, if_pos rfl]
      exact iff_of_false nofun nofun

/-- A registration is refused if the name is taken. -/
theorem register_eq_error_iff {failure : Failure} :
    before.register name factory = .error failure ↔
      before.units.find? name ≠ none ∧ failure = .duplicateUnit name := by
  rw [register, Table.contains]
  cases hfound : before.units.find? name with
  | none =>
      rw [Option.isSome_none, if_neg Bool.false_ne_true]
      exact iff_of_false nofun fun h => h.1 rfl
  | some taken =>
      rw [Option.isSome_some, if_pos rfl, Except.error.injEq, eq_comm]
      exact (and_iff_right (Option.some_ne_none taken)).symm

/-- An attempt enters one unit under a free name, with a shared handle for it, or it is
refused and changes nothing. -/
theorem registers_iff :
    before.Registers r after ↔
      (before.units.find? r.name = none ∧ ∃ id, r.reply = .ok ⟨id, r.name, r.factory⟩ ∧
        after = before.entering r.name ⟨r.factory, ⟨id, r.name, r.factory⟩⟩) ∨
      (before.units.find? r.name ≠ none ∧ r.reply = .error (.duplicateUnit r.name) ∧
        after = before) := by
  constructor
  · intro h
    cases h with
    | made hregister id =>
        obtain ⟨hfree, rfl⟩ := register_eq_ok_iff.mp hregister
        exact Or.inl ⟨hfree, id, rfl, rfl⟩
    | refused hregister =>
        obtain ⟨htaken, rfl⟩ := register_eq_error_iff.mp hregister
        exact Or.inr ⟨htaken, rfl, rfl⟩
  · obtain ⟨name, factory, reply⟩ := r
    dsimp only
    rintro (⟨hfree, id, rfl, rfl⟩ | ⟨htaken, rfl, rfl⟩)
    · exact .made (register_eq_ok_iff.mpr ⟨hfree, rfl⟩) id
    · exact .refused (register_eq_error_iff.mpr ⟨htaken, rfl⟩)

/-- The shared handle of a registration carries its name and its factory. -/
theorem Registers.carries (h : before.Registers r after) (hreply : r.reply = .ok shared) :
    shared.unit = r.name ∧ shared.factory = r.factory := by
  rcases registers_iff.mp h with ⟨-, id, hmade, -⟩ | ⟨-, hrefused, -⟩
  · cases hmade.symm.trans hreply
    exact ⟨rfl, rfl⟩
  · cases hrefused.symm.trans hreply

theorem Registers.entries (h : before.Registers r after) :
    after.units.entries = (unitsOf [r]).reverse ++ before.units.entries := by
  obtain ⟨name, factory, reply⟩ := r
  rw [registers_iff] at h
  dsimp only at h
  rcases h with ⟨hfree, id, rfl, rfl⟩ | ⟨-, rfl, rfl⟩
  · show _ :: (before.units.erase _).entries = _
    rw [Table.erase_eq_self hfree]
    rfl
  · rfl

theorem entries_of_history (h : Follows Registers registrations before registry) :
    registry.units.entries = (unitsOf registrations).reverse ++ before.units.entries := by
  induction registrations generalizing before with
  | nil =>
      rw [follows_nil.mp h]
      rfl
  | cons r registrations ih =>
      obtain ⟨between, hregisters, hrest⟩ := h
      have hsplit : unitsOf (r :: registrations) = unitsOf [r] ++ unitsOf registrations := by
        rw [unitsOf, ← List.singleton_append, List.filterMap_append]
        rfl
      rw [ih hrest, hregisters.entries, hsplit, List.reverse_append, List.append_assoc]

/-- The registry has been built by these registrations. -/
def BuiltBy (registry : Registry) (registrations : List Registration) : Prop :=
  Follows Registers registrations {} registry

namespace BuiltBy

theorem entries_eq (h : registry.BuiltBy registrations) :
    registry.units.entries = (unitsOf registrations).reverse :=
  (entries_of_history h).trans (List.append_nil _)

theorem find?_iff (h : registry.BuiltBy registrations) :
    registry.units.find? name = some unit ↔ (name, unit) ∈ unitsOf registrations := by
  rw [Table.find?_eq_some_iff, h.entries_eq, List.mem_reverse]

/-- A name has one factory. -/
theorem entry_unique {factory' : FactoryId} (h : registry.BuiltBy registrations)
    (hmem : (name, factory) ∈ entriesOf registrations)
    (hmem' : (name, factory') ∈ entriesOf registrations) : factory = factory' := by
  obtain ⟨shared, hunit⟩ := mem_entriesOf.mp hmem
  obtain ⟨shared', hunit'⟩ := mem_entriesOf.mp hmem'
  have hsame := (h.find?_iff.mpr hunit).symm.trans (h.find?_iff.mpr hunit')
  exact congrArg RegisteredUnit.factory (Option.some.inj hsame)

theorem nodup_entries (h : registry.BuiltBy registrations) : (entriesOf registrations).Nodup := by
  have hkeys := registry.units.nodup
  rw [h.entries_eq, List.map_reverse, List.nodup_reverse] at hkeys
  refine List.Nodup.of_map Prod.fst ?_
  rw [entriesOf, List.map_map]
  exact hkeys

theorem sole?_iff (h : registry.BuiltBy registrations) :
    registry.sole? = some factory ↔ ∃ name, entriesOf registrations = [(name, factory)] := by
  have hreverse : entriesOf registrations =
      (registry.units.entries.map (Prod.map id RegisteredUnit.factory)).reverse := by
    rw [h.entries_eq, List.map_reverse, List.reverse_reverse, entriesOf]
  rw [hreverse, sole?, Table.values]
  rcases registry.units.entries with _ | ⟨⟨name, unit⟩, _ | ⟨entry, rest⟩⟩
  · simp
  · simp
  · constructor
    · intro hsole
      cases hsole
    · rintro ⟨_, hsole⟩
      simpa using congrArg List.length hsole

/-- A unit of work uses the factory that its name stands for. -/
theorem resolve_iff (h : registry.BuiltBy registrations) :
    registry.resolve name = .ok factory ↔ Designates registrations name factory := by
  have hfound : (name, factory) ∈ entriesOf registrations ↔
      ∃ unit, registry.units.find? name = some unit ∧ unit.factory = factory := by
    rw [mem_entriesOf]
    constructor
    · rintro ⟨shared, hmem⟩
      exact ⟨_, h.find?_iff.mpr hmem, rfl⟩
    · rintro ⟨unit, hunit, rfl⟩
      exact ⟨unit.shared, h.find?_iff.mp hunit⟩
  have hnone : registry.units.find? name = none ↔
      ∀ other, (name, other) ∉ entriesOf registrations := by
    simp only [mem_entriesOf, ← h.find?_iff, Option.eq_none_iff_forall_ne_some, not_exists]
    exact ⟨fun hall _ _ => hall _, fun hall unit => hall unit.factory unit.shared⟩
  rw [Designates, hfound, ← hnone, ← h.sole?_iff]
  cases hunit : registry.units.find? name with
  | some unit => simp [resolve, hunit]
  | none => simp [resolve_iff_of_free hunit]

/-- A registration that has succeeded is found under its name, with the shared handle
that it has returned, and units of work on this name use its factory. -/
theorem sharedHandle_of_reply (h : registry.BuiltBy registrations) (hmem : r ∈ registrations)
    (hreply : r.reply = .ok shared) :
    registry.units.find? r.name = some ⟨r.factory, shared⟩ ∧
      registry.sharedHandle r.name = .ok shared ∧ registry.resolve r.name = .ok r.factory := by
  have hfound : registry.units.find? r.name = some ⟨r.factory, shared⟩ :=
    h.find?_iff.mpr (mem_unitsOf.mpr ⟨r, hmem, rfl, rfl, hreply⟩)
  refine ⟨hfound, ?_, ?_⟩
  · rw [sharedHandle, hfound]
  · rw [resolve, hfound]

/-- Every shared handle of the registry has been returned by a registration. -/
theorem exists_registration (h : registry.BuiltBy registrations)
    (hshared : registry.sharedHandle name = .ok shared) :
    ∃ r ∈ registrations, r.name = name ∧ r.reply = .ok shared := by
  rw [sharedHandle] at hshared
  cases hfound : registry.units.find? name with
  | none =>
      rw [hfound] at hshared
      cases hshared
  | some unit =>
      rw [hfound] at hshared
      obtain rfl := Except.ok.inj hshared
      obtain ⟨r, hmem, hname, -, hreply⟩ := mem_unitsOf.mp (h.find?_iff.mp hfound)
      exact ⟨r, hmem, hname, hreply⟩

/-- The shared handle that a registration has returned carries its name and its factory. -/
theorem carries (h : registry.BuiltBy registrations) (hmem : r ∈ registrations)
    (hreply : r.reply = .ok shared) : shared.unit = r.name ∧ shared.factory = r.factory := by
  obtain ⟨earlier, later, rfl⟩ := List.append_of_mem hmem
  obtain ⟨_, -, _, hregisters, -⟩ := follows_append.mp h
  exact hregisters.carries hreply

end BuiltBy

end Registry

end Demarcation
