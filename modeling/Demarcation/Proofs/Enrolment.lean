/-
Registering units in a process.

The parts of a process share a registry and the declared methods, and a setup
routine reads and writes them (`Setup.Tables.Step`).  Registering a unit never waits:
nobody comes between its look at the registry and its change.  So the calls of
several parts come one after the other, and a history of calls is a list of
registrations (`Setup.Tables.Registers`).

The first registration of a name stands for ever, and every later one is refused
and changes nothing.  A shared handle comes from one registration, whether it was
returned by it or looked up later (`Obtained`).  The registration has minted its
identity, which is greater than all that were minted before, so shared handles from
different registrations are different (`identity_of_made`); and the registry keeps the
shared handle, so those from one registration are the same.
-/
import Demarcation.Setup
import Demarcation.Proofs.Reaching
import Demarcation.Proofs.Registrations

namespace Demarcation

/-! ## The tables of a process -/

/-- The tables that the parts of a process share. -/
structure Setup.Tables where
  registry : Registry := {}
  declarations : Declarations := {}
  /-- How many identities have been minted. -/
  minted : ℕ := 0

/-- What a deed of a setup routine makes of the shared tables. -/
def Setup.Tables.Step (p : Setup.Tables) : Deed Setup.vocabulary Setup.calls → Setup.Tables → Prop
  | .did .registry answer, p' => answer = p.registry ∧ p' = p
  | .did (.setRegistry registry) _, p' => p' = { p with registry }
  | .did .declarations answer, p' => answer = p.declarations ∧ p' = p
  | .did (.setDeclarations declarations) _, p' => p' = { p with declarations }
  | .did .mint id, p' => id = ⟨p.minted⟩ ∧ p' = { p with minted := p.minted + 1 }
  | .did (.emit _) _, p' | .heard _ _, p' | .lost _, p' => p' = p

/-- What an attempt to register a factory makes of the shared tables. -/
def Setup.Tables.Registers (p : Setup.Tables) (r : Registration) (p' : Setup.Tables) : Prop :=
  (Setup.register r.name r.factory).Reaches Setup.Tables.Step p r.reply p'

/-- The name has been registered. -/
def Taken (registrations : List Registration) (name : String) : Prop :=
  ∃ r ∈ registrations, r.name = name ∧ ∃ shared, r.reply = .ok shared

/-- The ways to a shared handle.  It comes from the registration at the position
`origin`: this one has returned it, or it was looked up at some later moment under the
name that was registered there. -/
inductive Obtained (start : Setup.Tables) (registrations : List Registration) (origin : ℕ)
    (shared : SharedHandle) : Prop where
  | returned {r : Registration} (registration : registrations[origin]? = some r)
      (made : r.reply = .ok shared)
  | lookedUp {earlier later : List Registration} {r : Registration} {first : SharedHandle}
      {between : Setup.Tables} (split : registrations = earlier ++ later)
      (registration : earlier[origin]? = some r) (made : r.reply = .ok first)
      (moment : Follows Setup.Tables.Registers earlier start between)
      (found : between.registry.sharedHandle r.name = .ok shared)

/-- The step at a position, with what came before it and what came after it. -/
theorem Follows.exists_step {σ δ : Type} {step : σ → δ → σ → Prop} {ds : List δ} {s t : σ} {n : ℕ}
    {d : δ} (h : Follows step ds s t) (hd : ds[n]? = some d) :
    ∃ u v, Follows step (ds.take n) s u ∧ step u d v ∧ Follows step (ds.drop (n + 1)) v t := by
  have hsplit : ds = ds.take n ++ d :: ds.drop (n + 1) := by
    obtain ⟨hlt, rfl⟩ := List.getElem?_eq_some_iff.mp hd
    rw [List.getElem_cons_drop, List.take_append_drop]
  rw [hsplit] at h
  obtain ⟨u, hbefore, v, hstep, hafter⟩ := follows_append.mp h
  exact ⟨u, v, hbefore, hstep, hafter⟩

section Names

variable {registry : Registry} {registrations : List Registration} {name : String}

theorem taken_iff :
    Taken registrations name ↔ ∃ unit, (name, unit) ∈ unitsOf registrations := by
  simp only [mem_unitsOf]
  constructor
  · rintro ⟨r, hr, hname, shared, hreply⟩
    exact ⟨⟨r.factory, shared⟩, r, hr, hname, rfl, hreply⟩
  · rintro ⟨unit, r, hr, hname, -, hreply⟩
    exact ⟨r, hr, hname, unit.shared, hreply⟩

theorem taken_iff_entry :
    Taken registrations name ↔ ∃ factory, (name, factory) ∈ entriesOf registrations := by
  simp only [taken_iff, mem_entriesOf]
  exact ⟨fun ⟨unit, hmem⟩ => ⟨unit.factory, unit.shared, hmem⟩, fun ⟨_, _, hmem⟩ => ⟨_, hmem⟩⟩

namespace Registry.BuiltBy

theorem mem_names_iff (h : registry.BuiltBy registrations) :
    name ∈ registry.names ↔ Taken registrations name := by
  rw [names, Table.mem_keys_iff, Option.ne_none_iff_exists', taken_iff]
  simp only [h.find?_iff]

theorem find?_eq_none_iff (h : registry.BuiltBy registrations) :
    registry.units.find? name = none ↔ ¬ Taken registrations name := by
  rw [← h.mem_names_iff, names, Table.mem_keys_iff, not_not]

/-- There is one unit if one name is registered. -/
theorem sole?_iff_taken (h : registry.BuiltBy registrations) {factory : FactoryId} :
    registry.sole? = some factory ↔
      ∃ sole, (∀ other, Taken registrations other ↔ other = sole) ∧
        registry.resolve sole = .ok factory := by
  rw [h.sole?_iff]
  constructor
  · rintro ⟨sole, hentries⟩
    refine ⟨sole, ?_, h.resolve_iff.mpr (Or.inl (hentries ▸ List.mem_singleton_self _))⟩
    intro other
    simp [taken_iff_entry, hentries]
  · rintro ⟨sole, honly, hresolve⟩
    have htaken : Taken registrations sole := (honly sole).mpr rfl
    have hdesignated : (sole, factory) ∈ entriesOf registrations := by
      rcases h.resolve_iff.mp hresolve with hmem | ⟨-, hfree, -⟩
      · exact hmem
      · obtain ⟨taker, hmem⟩ := taken_iff_entry.mp htaken
        exact absurd hmem (hfree taker)
    have hall : ∀ entry, entry ∈ entriesOf registrations ↔ entry ∈ [(sole, factory)] := by
      rintro ⟨name, other⟩
      rw [List.mem_singleton]
      constructor
      · intro hmem
        obtain rfl := (honly name).mp (taken_iff_entry.mpr ⟨other, hmem⟩)
        rw [h.entry_unique hmem hdesignated]
      · rintro ⟨⟩
        exact hdesignated
    exact ⟨sole, List.perm_singleton.mp
      ((List.perm_ext_iff_of_nodup h.nodup_entries (List.nodup_singleton _)).mpr hall)⟩

end Registry.BuiltBy

end Names

namespace Setup.Tables

/-- The shared handle of a registration that is made now: it takes the next identity. -/
def newShared (p : Setup.Tables) (name : String) (factory : FactoryId) : SharedHandle :=
  ⟨⟨p.minted⟩, name, factory⟩

/-- The tables with one more unit. -/
def registering (p : Setup.Tables) (name : String) (factory : FactoryId) : Setup.Tables :=
  { p with
    registry := p.registry.entering name ⟨factory, p.newShared name factory⟩
    minted := p.minted + 1 }

variable {start p p' : Setup.Tables} {r r' : Registration} {registrations : List Registration}
  {origin : ℕ} {shared shared' : SharedHandle}

/-- A call enters a unit under a free name, with a shared handle of its own, and is
refused otherwise. -/
theorem registers_iff :
    p.Registers r p' ↔
      (p.registry.units.find? r.name = none ∧ r.reply = .ok (p.newShared r.name r.factory) ∧
        p' = p.registering r.name r.factory) ∨
      (p.registry.units.find? r.name ≠ none ∧ r.reply = .error (.duplicateUnit r.name) ∧
        p' = p) := by
  obtain ⟨name, factory, reply⟩ := r
  simp only [Registers, Setup.register, Action.perform_bind, Action.done_bind,
    Action.reaches_perform]
  constructor
  · rintro ⟨_, _, ⟨rfl, hp⟩, h⟩
    rw [hp] at h
    cases hregister : Registry.register p.registry name factory with
    | error failure =>
        obtain ⟨htaken, rfl⟩ := Registry.register_eq_error_iff.mp hregister
        simp only [hregister, Action.pure_eq_done, Action.reaches_done] at h
        obtain ⟨rfl, rfl⟩ := h
        exact Or.inr ⟨htaken, rfl, rfl⟩
    | ok made =>
        obtain ⟨hfree, rfl⟩ := Registry.register_eq_ok_iff.mp hregister
        simp only [hregister, Setup.emit, Action.perform_bind, Action.done_bind,
          Action.reaches_perform, Action.reaches_done] at h
        obtain ⟨_, _, ⟨rfl, rfl⟩, -, _, rfl, -, _, rfl, rfl, rfl⟩ := h
        exact Or.inl ⟨hfree, rfl, rfl⟩
  · rintro (⟨hfree, rfl, rfl⟩ | ⟨htaken, rfl, rfl⟩)
    · refine ⟨p.registry, p, ⟨rfl, rfl⟩, ?_⟩
      simp only [Registry.register_eq_ok_iff.mpr ⟨hfree, rfl⟩, Setup.emit, Action.perform_bind,
        Action.done_bind, Action.reaches_perform, Action.reaches_done]
      exact ⟨⟨p.minted⟩, _, ⟨rfl, rfl⟩, (), _, rfl, (), _, rfl, rfl, rfl⟩
    · refine ⟨p'.registry, p', ⟨rfl, rfl⟩, ?_⟩
      simp only [Registry.register_eq_error_iff.mpr ⟨htaken, rfl⟩, Action.pure_eq_done,
        Action.reaches_done]
      exact ⟨trivial, trivial⟩

/-- A call changes the registry as the registry says. -/
theorem Registers.registry (h : p.Registers r p') : p.registry.Registers r p'.registry := by
  rw [Registry.registers_iff]
  rcases registers_iff.mp h with ⟨hfree, hreply, rfl⟩ | ⟨htaken, hreply, rfl⟩
  · exact Or.inl ⟨hfree, ⟨p.minted⟩, hreply, rfl⟩
  · exact Or.inr ⟨htaken, hreply, rfl⟩

/-- A call that succeeds has minted the identity of its shared handle. -/
theorem Registers.minted (h : p.Registers r p') (hmade : r.reply = .ok shared) :
    shared.id = ⟨p.minted⟩ ∧ p'.minted = p.minted + 1 := by
  rcases registers_iff.mp h with ⟨-, hreply, rfl⟩ | ⟨-, hreply, -⟩
  · cases hmade.symm.trans hreply
    exact ⟨rfl, rfl⟩
  · cases hmade.symm.trans hreply

/-- A call succeeds if its name is free, and is refused otherwise. -/
theorem registers_iff_taken (h : p.registry.BuiltBy registrations) :
    p.Registers r p' ↔
      (¬ Taken registrations r.name ∧ r.reply = .ok (p.newShared r.name r.factory) ∧
        p' = p.registering r.name r.factory) ∨
      (Taken registrations r.name ∧ r.reply = .error (.duplicateUnit r.name) ∧ p' = p) := by
  rw [registers_iff, ne_eq, h.find?_eq_none_iff, not_not]

theorem builtBy (hstart : start.registry = {}) (h : Follows Registers registrations start p) :
    p.registry.BuiltBy registrations := by
  rw [Registry.BuiltBy, ← hstart]
  clear hstart
  induction registrations generalizing start with
  | nil => exact congrArg Setup.Tables.registry h
  | cons r registrations ih =>
      obtain ⟨between, hregisters, hrest⟩ := h
      exact ⟨between.registry, hregisters.registry, ih hrest⟩

/-- Identities are never taken back. -/
theorem minted_le (h : Follows Registers registrations start p) : start.minted ≤ p.minted := by
  induction registrations generalizing start with
  | nil => exact Nat.le_of_eq (congrArg Setup.Tables.minted h).symm
  | cons r registrations ih =>
      obtain ⟨between, hregisters, hrest⟩ := h
      have hstep : start.minted ≤ between.minted := by
        rcases registers_iff.mp hregisters with ⟨-, -, rfl⟩ | ⟨-, -, rfl⟩
        · exact Nat.le_succ _
        · exact Nat.le_refl _
      exact Nat.le_trans hstep (ih hrest)

/-- The identity of a shared handle is greater than those of earlier registrations. -/
theorem identity_of_made {i j : ℕ} (h : Follows Registers registrations start p)
    (hi : registrations[i]? = some r) (hmade : r.reply = .ok shared)
    (hj : registrations[j]? = some r') (hmade' : r'.reply = .ok shared') (hlt : i < j) :
    shared.id.index < shared'.id.index := by
  obtain ⟨later, _, hbefore, hregisters', -⟩ := h.exists_step hj
  rw [← List.getElem?_take_of_lt hlt] at hi
  obtain ⟨earlier, after, -, hregisters, hbetween⟩ := hbefore.exists_step hi
  calc shared.id.index
      = earlier.minted := congrArg SharedId.index (hregisters.minted hmade).1
    _ < after.minted := (hregisters.minted hmade).2 ▸ Nat.lt_succ_self _
    _ ≤ later.minted := minted_le hbetween
    _ = shared'.id.index := (congrArg SharedId.index (hregisters'.minted hmade').1).symm

/-- A shared handle is the one that its registration has returned. -/
theorem returned_of_obtained (hstart : start.registry = {})
    (h : Obtained start registrations origin shared) :
    ∃ r, registrations[origin]? = some r ∧ r.reply = .ok shared := by
  cases h with
  | returned hr hmade => exact ⟨_, hr, hmade⟩
  | @lookedUp earlier later r first between hsplit hr hmade hmoment hfound =>
      obtain ⟨-, hsame, -⟩ := (builtBy hstart hmoment).sharedHandle_of_reply
        (List.mem_of_getElem? hr) hmade
      obtain rfl := Except.ok.inj (hsame.symm.trans hfound)
      refine ⟨r, ?_, hmade⟩
      rw [hsplit, List.getElem?_append_left (List.getElem?_eq_some_iff.mp hr).1, hr]

/-- Whatever is registered, and in whatever order: a call succeeds if and only if its
name is free, and changes nothing otherwise; the names are those that have been
registered, each of them once; the first registration of a name decides for ever which
factory and which shared handle it has; shared handles are equal if and only if they
come from the same registration, and then one is a copy of the other; and a name that is
not registered stands for a factory if and only if it is the default one and there is one
unit, which has that factory. -/
theorem registrations_stand (hstart : start.registry = {})
    (hcalls : Follows Registers registrations start p) :
    (∀ r p', p.Registers r p' ↔
      (¬ Taken registrations r.name ∧ r.reply = .ok (p.newShared r.name r.factory) ∧
        p' = p.registering r.name r.factory) ∨
      (Taken registrations r.name ∧ r.reply = .error (.duplicateUnit r.name) ∧ p' = p)) ∧
    (p.registry.names.Nodup ∧
      (∀ name, name ∈ p.registry.names ↔ Taken registrations name) ∧
      p.registry.size = p.registry.names.length) ∧
    (∀ earlier r later, registrations = earlier ++ r :: later →
      (∀ e ∈ earlier, e.name ≠ r.name) →
      ∃ shared, r.reply = .ok shared ∧ shared.unit = r.name ∧ shared.factory = r.factory ∧
        p.registry.resolve r.name = .ok r.factory ∧
        p.registry.sharedHandle r.name = .ok shared) ∧
    ((∀ name shared, p.registry.sharedHandle name = .ok shared →
        ∃ origin, Obtained start registrations origin shared) ∧
      ∀ origin shared origin' shared', Obtained start registrations origin shared →
        Obtained start registrations origin' shared' →
        (shared == shared' ↔ origin = origin') ∧ (origin = origin' → shared = shared')) ∧
    ∀ name factory, ¬ Taken registrations name →
      (p.registry.resolve name = .ok factory ↔
        name = defaultUnitName ∧
          ∃ sole, (∀ other, Taken registrations other ↔ other = sole) ∧
            p.registry.resolve sole = .ok factory) := by
  have hbuilt := builtBy hstart hcalls
  refine ⟨?calls, ⟨?nodup, ?names, ?size⟩, ?first, ⟨?lookup, ?identity⟩, ?fallback⟩
  case calls =>
    intro r p'
    exact registers_iff_taken hbuilt
  case nodup => exact p.registry.units.nodup_keys
  case names =>
    intro name
    exact hbuilt.mem_names_iff
  case size => exact (List.length_map _).symm
  case first =>
    rintro earlier r later rfl hfirst
    obtain ⟨before, hearlier, after, hregisters, hlater⟩ := follows_append.mp hcalls
    have hfree : ¬ Taken earlier r.name := by
      rintro ⟨e, he, hname, -⟩
      exact hfirst e he hname
    rcases (registers_iff_taken (builtBy hstart hearlier)).mp hregisters with
      ⟨-, hmade, -⟩ | ⟨htaken, -⟩
    · obtain ⟨-, hlookup, hresolve⟩ :=
        hbuilt.sharedHandle_of_reply (List.mem_append_right _ List.mem_cons_self) hmade
      exact ⟨_, hmade, rfl, rfl, hresolve, hlookup⟩
    · exact absurd htaken hfree
  case lookup =>
    intro name shared hfound
    obtain ⟨r, hr, rfl, hmade⟩ := hbuilt.exists_registration hfound
    obtain ⟨origin, horigin⟩ := List.mem_iff_getElem?.mp hr
    exact ⟨origin, .lookedUp (List.append_nil _).symm horigin hmade hcalls hfound⟩
  case identity =>
    intro i shared j shared' hobtained hobtained'
    obtain ⟨r, hi, hmade⟩ := returned_of_obtained hstart hobtained
    obtain ⟨r', hj, hmade'⟩ := returned_of_obtained hstart hobtained'
    have hcopy : i = j → shared = shared' := by
      rintro rfl
      obtain rfl := Option.some.inj (hi.symm.trans hj)
      exact Except.ok.inj (hmade.symm.trans hmade')
    refine ⟨?_, hcopy⟩
    rw [SharedHandle.beq_iff_id_eq]
    constructor
    · intro hid
      have hindex := congrArg SharedId.index hid
      rcases Nat.lt_trichotomy i j with hlt | heq | hgt
      · exact absurd hindex (Nat.ne_of_lt (identity_of_made hcalls hi hmade hj hmade' hlt))
      · exact heq
      · exact absurd hindex (Nat.ne_of_gt (identity_of_made hcalls hj hmade' hi hmade hgt))
    · intro heq
      rw [hcopy heq]
  case fallback =>
    intro name factory hfree
    rw [Registry.resolve_iff_of_free (hbuilt.find?_eq_none_iff.mpr hfree),
      hbuilt.sole?_iff_taken]

/-- Two calls for the unit `main`; the second is refused. -/
def twiceMain : List Registration := [
  ⟨"main", ⟨0⟩, .ok ⟨⟨0⟩, "main", ⟨0⟩⟩⟩,
  ⟨"main", ⟨1⟩, .error (.duplicateUnit "main")⟩]

/-- The unit keeps its first factory, and a unit of work on the default unit uses it as
long as there is no other unit.  The shared handle that is looked up is equal to the one
that the first call has returned. -/
theorem twiceMain_stands :
    ∃ start p : Setup.Tables, start.registry = {} ∧
      Follows Registers twiceMain start p ∧
      p.registry.resolve "main" = .ok ⟨0⟩ ∧
      p.registry.sharedHandle "main" = .ok ⟨⟨0⟩, "main", ⟨0⟩⟩ ∧
      p.registry.resolve defaultUnitName = .ok ⟨0⟩ := by
  have hcalls : Follows Registers twiceMain {}
      ((({} : Setup.Tables).registering "main" ⟨0⟩)) := by
    refine ⟨_, registers_iff.mpr (Or.inl ⟨rfl, rfl, rfl⟩), _, ?_, rfl⟩
    exact registers_iff.mpr (Or.inr ⟨nofun, rfl, rfl⟩)
  have htaken : ∀ name, Taken twiceMain name ↔ name = "main" := by
    simp [Taken, twiceMain, eq_comm]
  obtain ⟨-, -, hfirst, -, hfallback⟩ := registrations_stand rfl hcalls
  obtain ⟨shared, hmade, -, -, hresolve, hlookup⟩ := hfirst [] _ _ rfl (fun _ he => nomatch he)
  cases hmade
  have hfree : ¬ Taken twiceMain defaultUnitName := by
    rw [htaken]
    decide
  refine ⟨_, _, rfl, hcalls, hresolve, hlookup, (hfallback _ _ hfree).mpr ?_⟩
  exact ⟨rfl, "main", htaken, hresolve⟩

end Setup.Tables

end Demarcation
