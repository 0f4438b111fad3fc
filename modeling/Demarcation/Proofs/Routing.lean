/-
From a declaration to a handle.

Three lookups have to agree.  A unit of work takes its factory by the name in
its specification, its handle is bound under the factory that the handle
reports, and a shared handle looks for the factory that was fixed when it was
registered.  A `Nest` is what is open in one context: units of work on pairwise
distinct factories.  However it has come about, every shared handle forwards to
the handle of the one unit of work that resolves to its factory.

`Contacts` bounds whom a routine turns to.  Starting a unit of work calls the one
factory and asks the handle it has handed out, and ending it asks its handle.
-/
import Demarcation.Proofs.Forwarding
import Demarcation.Proofs.Lifetime
import Demarcation.Proofs.Registrations

namespace Demarcation

variable {app : Jobs}

/-! ## Whom a routine turns to -/

namespace WorkDeed

/-- The handle that is asked for something. -/
@[simp] def asked? : WorkDeed app → Option Handle
  | .did (.transactionActive h) _ => some h
  | .did (.close h) _ => some h
  | .did (.provides h _) _ => some h
  | .heard (.configure h _) _ => some h
  | .heard (.begin h) _ => some h
  | .heard (.commit h) _ => some h
  | .heard (.rollback h) _ => some h
  | .heard (.execute h _) _ => some h
  | .lost (.configure h _) => some h
  | .lost (.begin h) => some h
  | .lost (.commit h) => some h
  | .lost (.rollback h) => some h
  | .lost (.execute h _) => some h
  | _ => none

/-- The factory that is called. -/
@[simp] def factory? : WorkDeed app → Option FactoryId
  | .heard (.create f) _ => some f
  | .lost (.create f) => some f
  | _ => none

end WorkDeed

/-- Only these factories are called, and only these handles are asked. -/
def Contacts (factories : FactoryId → Prop) (handles : Handle → Prop)
    (deeds : List (WorkDeed app)) : Prop :=
  ∀ d ∈ deeds, (∀ f, d.factory? = some f → factories f) ∧ ∀ h, d.asked? = some h → handles h

section Contacts

variable {factories : FactoryId → Prop} {handles : Handle → Prop} {ds es : List (WorkDeed app)}
  {cx : ContextId} {h : Handle} {work : OpenUnit}

@[simp] theorem contacts_nil : Contacts factories handles ([] : List (WorkDeed app)) :=
  fun _ h => nomatch h

@[simp] theorem contacts_cons {d : WorkDeed app} :
    Contacts factories handles (d :: ds) ↔
      ((∀ f, d.factory? = some f → factories f) ∧ ∀ h, d.asked? = some h → handles h) ∧
        Contacts factories handles ds := by
  simp [Contacts]

@[simp] theorem contacts_append :
    Contacts factories handles (ds ++ es) ↔
      Contacts factories handles ds ∧ Contacts factories handles es :=
  List.forall_mem_append

theorem Contacts.mono {factories' : FactoryId → Prop} {handles' : Handle → Prop}
    (hds : Contacts factories handles ds) (hfactories : ∀ f, factories f → factories' f)
    (hhandles : ∀ h, handles h → handles' h) : Contacts factories' handles' ds := by
  intro d hd
  exact ⟨fun f hf => hfactories f ((hds d hd).1 f hf), fun h hh => hhandles h ((hds d hd).2 h hh)⟩

theorem contacts_bindDeeds {replaced : Option Handle} :
    Contacts factories handles (cx.bindDeeds h replaced : List (WorkDeed app)) := by
  simp [ContextId.bindDeeds]

theorem contacts_unbindDeeds {factory : FactoryId} {removed : Option Handle} :
    Contacts factories handles (cx.unbindDeeds factory removed : List (WorkDeed app)) := by
  cases removed <;> simp [ContextId.unbindDeeds]

namespace OpenUnit

theorem contacts_releaseDeeds {removed : Option Handle} :
    Contacts factories (· = work.handle) (work.releaseDeeds cx removed : List (WorkDeed app)) := by
  simp [releaseDeeds, contacts_unbindDeeds]

theorem Enters.contacts {spec : WorkSpec} {v : Option (Except Failure Unit)}
    (henters : Enters cx spec h ds v) : Contacts factories (· = h) ds := by
  cases henters <;> simp [contacts_bindDeeds]

theorem OwesEnd.contacts {owed : Bool} (howes : work.OwesEnd ds owed) :
    Contacts factories (· = work.handle) ds := by
  cases howes <;> simp

theorem Commits.contacts {v : Option (Except Failure Unit)} (hcommits : work.Commits ds v) :
    Contacts factories (· = work.handle) ds := by
  cases hcommits with
  | notOwed howes => exact howes.contacts
  | dropped howes => simp [howes.contacts]
  | failed howes => simp [howes.contacts]
  | committed howes => simp [howes.contacts]

theorem RollsBack.contacts {v : Option Unit} (hrolls : work.RollsBack ds v) :
    Contacts factories (· = work.handle) ds := by
  cases hrolls with
  | notOwed howes => exact howes.contacts
  | dropped howes => simp [howes.contacts]
  | failed howes => simp [howes.contacts]
  | rolledBack howes => simp [howes.contacts]

end OpenUnit

namespace Demarcator

variable {demarcator : Demarcator}

/-- Starting a unit of work calls the factory that its specification resolves to, and
asks the handle that it gets there. -/
theorem Starts.contacts {registry : Registry} {spec : WorkSpec}
    {v : Option (Except Failure Demarcator)}
    (hstarts : demarcator.Starts registry cx (some spec) ds v) :
    Contacts (fun f => registry.resolve spec.unit = .ok f) (· ∈ handed ds) ds := by
  have hcreated : ∀ {factory : FactoryId} {handle : Handle} {rest : List (WorkDeed app)},
      registry.resolve spec.unit = .ok factory → Contacts (fun _ => False) (· = handle) rest →
        Contacts (fun f => registry.resolve spec.unit = .ok f)
          (· ∈ handed (.heard (.create factory) (.ok handle) :: rest))
          (.heard (.create factory) (.ok handle) :: rest) := by
    intro factory handle rest hresolved hrest
    refine contacts_cons.mpr ⟨by simpa using hresolved, ?_⟩
    refine hrest.mono (fun _ hno => absurd hno not_false) ?_
    rintro h rfl
    exact mem_handed List.mem_cons_self
  cases hstarts with
  | unresolved => exact contacts_nil
  | createDropped hresolved => simpa using hresolved
  | createFailed hresolved => simpa using hresolved
  | enterDropped hresolved henters => exact hcreated hresolved henters.contacts
  | refused hresolved henters =>
      refine hcreated hresolved (contacts_append.mpr ⟨henters.contacts, ?_⟩)
      simp [contacts_unbindDeeds]
  | opened hresolved henters =>
      refine hcreated hresolved (contacts_append.mpr ⟨henters.contacts, ?_⟩)
      simp

theorem Finishes.contacts (hfinishes : demarcator.Finishes cx work ds) :
    Contacts factories (· = work.handle) ds := by
  cases hfinishes with
  | immediate => exact OpenUnit.contacts_releaseDeeds
  | deferred => exact contacts_nil

theorem Completes.contacts {v : Option (Except Failure Unit × Demarcator)}
    (hcurrent : demarcator.current = some work) (hcompletes : demarcator.Completes cx ds v) :
    Contacts factories (· = work.handle) ds := by
  cases hcompletes with
  | idle => exact contacts_nil
  | commitDropped hcur hcommits =>
      obtain rfl := Option.some.inj (hcurrent.symm.trans hcur)
      exact hcommits.contacts
  | completed hcur hcommits hfinishes =>
      obtain rfl := Option.some.inj (hcurrent.symm.trans hcur)
      exact contacts_append.mpr ⟨hcommits.contacts, hfinishes.contacts⟩
  | rollbackDropped hcur hcommits hrolls =>
      obtain rfl := Option.some.inj (hcurrent.symm.trans hcur)
      simp [hcommits.contacts, hrolls.contacts]
  | commitFailed hcur hcommits hrolls hfinishes =>
      obtain rfl := Option.some.inj (hcurrent.symm.trans hcur)
      simp [hcommits.contacts, hrolls.contacts, hfinishes.contacts]

theorem Fails.contacts {v : Option Demarcator} (hcurrent : demarcator.current = some work)
    (hfails : demarcator.Fails cx ds v) : Contacts factories (· = work.handle) ds := by
  cases hfails with
  | idle => exact contacts_nil
  | dropped hcur hrolls =>
      obtain rfl := Option.some.inj (hcurrent.symm.trans hcur)
      exact hrolls.contacts
  | failed hcur hrolls hfinishes =>
      obtain rfl := Option.some.inj (hcurrent.symm.trans hcur)
      exact contacts_append.mpr ⟨hrolls.contacts, hfinishes.contacts⟩

/-- The demarcator ends its unit of work, in success or in failure, or it gives the
unit of work up, which it does where handles are released at once.  The flag says
whether it came to the end of this. -/
def Concludes (demarcator : Demarcator) (cx : ContextId) (deeds : List (WorkDeed app))
    (whole : Bool) : Prop :=
  (∃ v, v.isSome = whole ∧ (demarcator.complete cx : Work app _).Traces deeds v) ∨
    (∃ v, v.isSome = whole ∧ (demarcator.fail cx : Work app _).Traces deeds v) ∨
      (whole = true ∧ demarcator.mode = .immediate ∧
        (demarcator.releaseAbandoned cx).Traces deeds ())

/-- Ending a unit of work asks its handle, and calls no factory. -/
theorem Concludes.contacts {whole : Bool} (hcurrent : demarcator.current = some work)
    (hconcludes : demarcator.Concludes cx ds whole) :
    Contacts factories (· = work.handle) ds := by
  rcases hconcludes with ⟨v, -, h⟩ | ⟨v, -, h⟩ | ⟨-, -, h⟩
  · exact (traces_complete.mp h).contacts hcurrent
  · exact (traces_fail.mp h).contacts hcurrent
  · obtain ⟨removed, rfl⟩ := (traces_releaseAbandoned hcurrent).mp h
    simp [OpenUnit.contacts_releaseDeeds]

theorem Concludes.ends {whole : Bool} (hcurrent : demarcator.current = some work)
    (hconcludes : demarcator.Concludes cx ds whole) : demarcator.Ends cx ds whole := by
  rcases hconcludes with ⟨v, rfl, h⟩ | ⟨v, rfl, h⟩ | ⟨rfl, hmode, h⟩
  · exact (traces_complete.mp h).ends
  · exact (traces_fail.mp h).ends
  · obtain ⟨removed, rfl⟩ := (traces_releaseAbandoned hcurrent).mp h
    have hneutral : Neutral ([.did (.emit (.workCancelled cx work.spec.unit)) ()] :
        List (WorkDeed app)) := by
      simp [WorkDeed.Neutral]
    exact .ended hcurrent hneutral (.immediate hmode removed)

end Demarcator

end Contacts

/-! ## What is open in a context -/

/-- The units of work whose handles are bound in a context, newest first, and the
workspace. -/
structure Nest where
  units : List OpenUnit
  workspace : Workspace

namespace Nest

/-- What is done in a context: a unit of work is started or ended, or something else. -/
inductive Act where
  | start (spec : WorkSpec)
  | finish (work : OpenUnit)
  | other

/-- What was done, and the deeds of it. -/
structure Piece (app : Jobs) where
  act : Act
  deeds : List (WorkDeed app)

/-- Only those are turned to whom the piece concerns: for a start the factory that
its specification resolves to and the handle from there, for an end the handle of
the unit of work. -/
def Piece.Confined (registry : Registry) (piece : Piece app) : Prop :=
  match piece.act with
  | .start spec => Contacts (fun f => registry.resolve spec.unit = .ok f)
      (· ∈ handed piece.deeds) piece.deeds
  | .finish work => Contacts (fun _ => False) (· = work.handle) piece.deeds
  | .other => True

section Steps

variable (registry : Registry) (cx : ContextId) (others : Workspace → Workspace → Prop)

/-- What may be done in a context where no two units of work are open on one factory. -/
inductive Steps : Nest → Piece app → Nest → Prop where
  /-- A unit of work is opened. -/
  | opened {units : List OpenUnit} {w w' : Workspace} {deeds : List (WorkDeed app)}
      {demarcator next : Demarcator} {work : OpenUnit}
      (starts : (demarcator.start registry cx (some work.spec) : Work app _).Traces deeds
        (some (.ok next))) (current : next.current = some work)
      (distinct : ∀ other ∈ units, other.factory ≠ work.factory)
      (leads : Workspace.Leads others deeds w w') :
      Steps ⟨units, w⟩ ⟨.start work.spec, deeds⟩ ⟨work :: units, w'⟩
  /-- A unit of work can not be opened. -/
  | refused {units : List OpenUnit} {w w' : Workspace} {deeds : List (WorkDeed app)}
      {demarcator : Demarcator} {spec : WorkSpec} {failure : Failure}
      (starts : (demarcator.start registry cx (some spec) : Work app _).Traces deeds
        (some (.error failure)))
      (distinct : ∀ other ∈ units, registry.resolve spec.unit ≠ .ok other.factory)
      (leads : Workspace.Leads others deeds w w') :
      Steps ⟨units, w⟩ ⟨.start spec, deeds⟩ ⟨units, w'⟩
  /-- A start is dropped before anything is bound. -/
  | dropped {units : List OpenUnit} {w w' : Workspace} {deeds : List (WorkDeed app)}
      {demarcator : Demarcator} {spec : WorkSpec}
      (starts : (demarcator.start registry cx (some spec) : Work app _).Traces deeds none)
      (same : w'.context cx = w.context cx) (leads : Workspace.Leads others deeds w w') :
      Steps ⟨units, w⟩ ⟨.start spec, deeds⟩ ⟨units, w'⟩
  /-- A unit of work is ended or given up, and its handle is released at once. -/
  | ended {units : List OpenUnit} {w w' : Workspace} {deeds : List (WorkDeed app)}
      {demarcator : Demarcator} {work : OpenUnit} (mem : work ∈ units)
      (current : demarcator.current = some work) (immediate : demarcator.mode = .immediate)
      (concludes : demarcator.Concludes cx deeds true)
      (leads : Workspace.Leads others deeds w w') :
      Steps ⟨units, w⟩ ⟨.finish work, deeds⟩ ⟨units.erase work, w'⟩
  /-- A unit of work is ended and its handle left bound, or its end is dropped. -/
  | kept {units : List OpenUnit} {w w' : Workspace} {deeds : List (WorkDeed app)}
      {demarcator : Demarcator} {work : OpenUnit} {whole : Bool} (mem : work ∈ units)
      (current : demarcator.current = some work)
      (deferred : demarcator.mode = .deferred ∨ whole = false)
      (concludes : demarcator.Concludes cx deeds whole)
      (leads : Workspace.Leads others deeds w w') :
      Steps ⟨units, w⟩ ⟨.finish work, deeds⟩ ⟨units, w'⟩
  /-- The context is emptied, and every handle that was bound is closed. -/
  | emptied {units : List OpenUnit} {w w' : Workspace} {deeds : List (WorkDeed app)}
      (empties : (cx.unbindAll Handle.close).Traces deeds ())
      (leads : Workspace.Leads others deeds w w') :
      Steps ⟨units, w⟩ ⟨.other, deeds⟩ ⟨[], w'⟩
  /-- Something is done that leaves the bindings of the context alone. -/
  | other {units : List OpenUnit} {w w' : Workspace} {deeds : List (WorkDeed app)}
      (same : w'.context cx = w.context cx) (leads : Workspace.Leads others deeds w w') :
      Steps ⟨units, w⟩ ⟨.other, deeds⟩ ⟨units, w'⟩

/-- What is bound are the handles of the open units of work, each under the factory
that its specification resolves to. -/
structure Sound (s : Nest) : Prop where
  resolved : ∀ work ∈ s.units, registry.resolve work.spec.unit = .ok work.factory
  handle : ∀ work ∈ s.units, work.handle.factory = work.factory
  distinct : (s.units.map OpenUnit.factory).Nodup
  bound : ∀ f h, (s.workspace.context cx).find? f = some h ↔
    ∃ work ∈ s.units, work.factory = f ∧ work.handle = h

end Steps

variable {registry : Registry} {cx : ContextId} {others : Workspace → Workspace → Prop}
  {s t : Nest} {piece : Piece app}

theorem Steps.confined (hstep : Steps registry cx others s piece t) : piece.Confined registry := by
  cases hstep with
  | opened hstarts => exact (Demarcator.traces_start.mp hstarts).contacts
  | refused hstarts => exact (Demarcator.traces_start.mp hstarts).contacts
  | dropped hstarts => exact (Demarcator.traces_start.mp hstarts).contacts
  | ended _ hcurrent _ hconcludes => exact hconcludes.contacts hcurrent
  | kept _ hcurrent _ hconcludes => exact hconcludes.contacts hcurrent
  | emptied => trivial
  | other => trivial

/-- A unit of work that is open was open before, or has been opened by this step. -/
theorem Steps.opened_or_mem (hstep : Steps registry cx others s piece t) :
    ∀ work ∈ t.units, work ∈ s.units ∨ (piece.act = .start work.spec ∧
      .heard (.create work.factory) (.ok work.handle) ∈ piece.deeds) := by
  intro work hmem
  cases hstep with
  | opened hstarts hcurrent =>
      rcases List.mem_cons.mp hmem with rfl | hmem
      · rcases (Demarcator.traces_start.mp hstarts).of_ok with
          ⟨hnone, -⟩ | ⟨_, work', -, -, rfl, hcreated, -⟩
        · cases hnone
        · cases hcurrent
          exact Or.inr ⟨rfl, hcreated⟩
      · exact Or.inl hmem
  | ended => exact Or.inl (List.mem_of_mem_erase hmem)
  | emptied => cases hmem
  | _ => exact Or.inl hmem

/-- What leaves the bindings alone leaves the nest sound. -/
theorem Sound.of_same {units : List OpenUnit} {w w' : Workspace}
    (hsound : Sound registry cx ⟨units, w⟩) (hsame : w'.context cx = w.context cx) :
    Sound registry cx ⟨units, w'⟩ where
  resolved := hsound.resolved
  handle := hsound.handle
  distinct := hsound.distinct
  bound := by
    intro f h
    rw [hsame]
    exact hsound.bound f h

theorem Sound.eq_of_factory_eq {work other : OpenUnit} (hsound : Sound registry cx s)
    (hwork : work ∈ s.units) (hother : other ∈ s.units) (hsame : work.factory = other.factory) :
    work = other :=
  List.inj_on_of_nodup_map hsound.distinct hwork hother hsame

section Bindings

variable {units : List OpenUnit} {w w' : Workspace} {work : OpenUnit}

/-- Binding the handle of a unit of work opens it, if there is none for its factory. -/
theorem Sound.push (hsound : Sound registry cx ⟨units, w⟩)
    (hresolved : registry.resolve work.spec.unit = .ok work.factory)
    (hfactory : work.handle.factory = work.factory)
    (hdistinct : ∀ other ∈ units, other.factory ≠ work.factory)
    (hcontext : w'.context cx = ((w.context cx).bind work.handle).2) :
    Sound registry cx ⟨work :: units, w'⟩ := by
  constructor
  · exact List.forall_mem_cons.mpr ⟨hresolved, hsound.resolved⟩
  · exact List.forall_mem_cons.mpr ⟨hfactory, hsound.handle⟩
  · refine List.nodup_cons.mpr ⟨?_, hsound.distinct⟩
    intro hmem
    obtain ⟨other, hother, hsame⟩ := List.mem_map.mp hmem
    exact hdistinct other hother hsame
  · intro f h
    show (w'.context cx).find? f = some h ↔ _
    rw [hcontext, Context.find?_bind, hfactory, List.exists_mem_cons_iff]
    by_cases hf : work.factory = f
    · rw [if_pos hf, Option.some_inj]
      constructor
      · exact fun hh => Or.inl ⟨hf, hh⟩
      · rintro (⟨-, hh⟩ | ⟨other, hmem, hother, -⟩)
        · exact hh
        · exact absurd (hother.trans hf.symm) (hdistinct other hmem)
    · rw [if_neg hf, hsound.bound f h]
      constructor
      · exact Or.inr
      · rintro (⟨hwork, -⟩ | hothers)
        · exact absurd hwork hf
        · exact hothers

/-- Removing the binding of a factory that no unit of work is open on. -/
theorem Sound.of_unbind_free {factory : FactoryId} (hsound : Sound registry cx ⟨units, w⟩)
    (hfree : ∀ other ∈ units, other.factory ≠ factory)
    (hcontext : w'.context cx = ((w.context cx).unbind factory).2) :
    Sound registry cx ⟨units, w'⟩ := by
  refine ⟨hsound.resolved, hsound.handle, hsound.distinct, ?_⟩
  intro f h
  show (w'.context cx).find? f = some h ↔ _
  rw [hcontext, Context.find?_unbind]
  by_cases hf : factory = f
  · rw [if_pos hf]
    refine iff_of_false nofun ?_
    rintro ⟨other, hmem, hother, -⟩
    exact hfree other hmem (hother.trans hf.symm)
  · rw [if_neg hf]
    exact hsound.bound f h

/-- The others are those on other factories. -/
theorem Sound.mem_erase (hsound : Sound registry cx ⟨units, w⟩) (hmem : work ∈ units)
    {other : OpenUnit} :
    other ∈ units.erase work ↔ other ∈ units ∧ other.factory ≠ work.factory := by
  have hnodup : units.Nodup := .of_map OpenUnit.factory hsound.distinct
  rw [hnodup.mem_erase_iff, and_comm]
  refine and_congr_right fun hother => not_congr ?_
  constructor
  · rintro rfl
    rfl
  · exact hsound.eq_of_factory_eq hother hmem

/-- Removing the binding of a unit of work leaves the others. -/
theorem Sound.erase (hsound : Sound registry cx ⟨units, w⟩) (hmem : work ∈ units)
    (hcontext : w'.context cx = ((w.context cx).unbind work.factory).2) :
    Sound registry cx ⟨units.erase work, w'⟩ := by
  constructor
  · exact fun other hother => hsound.resolved other (List.mem_of_mem_erase hother)
  · exact fun other hother => hsound.handle other (List.mem_of_mem_erase hother)
  · exact hsound.distinct.sublist (List.erase_sublist.map OpenUnit.factory)
  · intro f h
    show (w'.context cx).find? f = some h ↔ _
    rw [hcontext, Context.find?_unbind]
    by_cases hf : work.factory = f
    · rw [if_pos hf]
      refine iff_of_false nofun ?_
      rintro ⟨other, hother, hsame, -⟩
      exact ((hsound.mem_erase hmem).mp hother).2 (hsame.trans hf.symm)
    · rw [if_neg hf, hsound.bound f h]
      constructor
      · rintro ⟨other, hother, hsame, hh⟩
        refine ⟨other, (hsound.mem_erase hmem).mpr ⟨hother, ?_⟩, hsame, hh⟩
        rw [hsame]
        exact Ne.symm hf
      · rintro ⟨other, hother, hrest⟩
        exact ⟨other, ((hsound.mem_erase hmem).mp hother).1, hrest⟩

end Bindings

/-- Every step leaves a sound nest sound. -/
theorem Steps.sound (hspares : Workspace.Spares others cx) (hown : OwnFactory piece.deeds)
    (hstep : Steps registry cx others s piece t) (hsound : Sound registry cx s) :
    Sound registry cx t := by
  cases hstep with
  | opened hstarts hcurrent hdistinct hleads =>
      rcases (Demarcator.traces_start.mp hstarts).of_ok with
        ⟨hnone, -⟩ | ⟨_, work', hspec, hresolved, rfl, hcreated, hopens⟩
      · cases hnone
      · cases hcurrent
        cases hspec
        exact hsound.push hresolved (hown _ _ hcreated) hdistinct (hopens.context hspares hleads)
  | refused hstarts hdistinct hleads =>
      rcases (Demarcator.traces_start.mp hstarts).of_error hown with
        hquiet | ⟨_, handle, hspec, hresolved, hrefused⟩
      · exact hsound.of_same (hquiet.context hspares hleads)
      · cases hspec
        refine hsound.of_unbind_free ?_ (hrefused.context hspares hleads)
        intro other hmem hother
        rw [← hother] at hresolved
        exact hdistinct other hmem hresolved
  | dropped _ hsame => exact hsound.of_same hsame
  | ended hmem hcurrent himmediate hconcludes hleads =>
      obtain ⟨ending, removed, hneutral, rfl⟩ :=
        (hconcludes.ends hcurrent).release_of_immediate himmediate hcurrent
      obtain ⟨u, hending, hrelease⟩ := follows_append.mp hleads
      obtain ⟨-, rfl⟩ := Workspace.leads_releaseDeeds.mp hrelease
      refine hsound.erase hmem ?_
      rw [Workspace.context_set_self, hneutral.context hspares hending]
  | @kept _ _ _ deeds _ _ _ _ hcurrent hdeferred hconcludes hleads =>
      have hends := hconcludes.ends hcurrent
      have hneutral : Neutral deeds := by
        rcases hdeferred with hmode | rfl
        · exact hends.neutral_of_deferred hmode
        · exact hends.neutral_of_dropped
      exact hsound.of_same (hneutral.context hspares hleads)
  | emptied hempties hleads =>
      obtain ⟨found, rfl⟩ := ContextId.traces_unbindAll.mp hempties
      obtain ⟨-, rfl⟩ := leads_emptyDeeds.mp hleads
      refine ⟨nofun, nofun, List.nodup_nil, ?_⟩
      intro f h
      show ((Workspace.set _ cx _).context cx).find? f = some h ↔ _
      rw [Workspace.context_set_self]
      exact iff_of_false nofun nofun
  | other hsame => exact hsound.of_same hsame

/-! ## Whole histories -/

section History

variable {pieces : List (Piece app)}

theorem sound_of_empty (hunits : s.units = []) (hempty : s.workspace.context cx = .empty) :
    Sound registry cx s := by
  have hnone : ∀ work, work ∉ s.units := by
    intro work
    rw [hunits]
    exact List.not_mem_nil
  constructor
  · exact fun work hmem => absurd hmem (hnone work)
  · exact fun work hmem => absurd hmem (hnone work)
  · rw [hunits]
    exact List.nodup_nil
  · intro f h
    rw [hempty]
    refine iff_of_false nofun ?_
    rintro ⟨work, hmem, -⟩
    exact hnone work hmem

theorem sound_of_history (hspares : Workspace.Spares others cx)
    (hown : ∀ piece ∈ pieces, OwnFactory piece.deeds)
    (hhistory : Follows (Steps registry cx others) pieces s t) (hsound : Sound registry cx s) :
    Sound registry cx t :=
  hhistory.keeps
    (fun piece hpiece _ _ hstep hs => hstep.sound hspares (hown piece hpiece) hs) hsound

theorem confined_of_history (hhistory : Follows (Steps registry cx others) pieces s t) :
    ∀ piece ∈ pieces, piece.Confined registry := by
  intro piece hmem
  obtain ⟨earlier, later, rfl⟩ := List.append_of_mem hmem
  obtain ⟨_, -, _, hstep, -⟩ := follows_append.mp hhistory
  exact hstep.confined

theorem opened_of_history (hhistory : Follows (Steps registry cx others) pieces s t) :
    ∀ work ∈ t.units, work ∈ s.units ∨ ∃ piece ∈ pieces, piece.act = .start work.spec ∧
      .heard (.create work.factory) (.ok work.handle) ∈ piece.deeds := by
  intro work hmem
  induction pieces generalizing s with
  | nil =>
      rw [follows_nil.mp hhistory] at hmem
      exact Or.inl hmem
  | cons piece pieces ih =>
      obtain ⟨u, hstep, hrest⟩ := hhistory
      rcases ih hrest with hbefore | ⟨later, hlater, hopened⟩
      · refine (hstep.opened_or_mem work hbefore).imp_right ?_
        exact fun hopened => ⟨piece, List.mem_cons_self, hopened⟩
      · exact Or.inr ⟨later, List.mem_cons_of_mem piece hlater, hopened⟩

/-- A shared handle reaches the handle of the open unit of work on its factory, and
no other; without one it fails. -/
theorem Sound.invoke {shared : SharedHandle} {operation : Operation} {deeds : List (WorkDeed app)}
    {v : Option (Except Failure Outcome)} {w : Workspace} (hsound : Sound registry cx s)
    (hinvoke : (shared.invoke cx operation : Work app _).Traces deeds v)
    (hleads : Workspace.Leads others deeds s.workspace w) :
    (∀ work ∈ s.units, registry.resolve work.spec.unit = .ok shared.factory →
        ∃ rest, deeds = .did (.context (.find cx shared.factory)) (some work.handle) :: rest ∧
          work.handle.Receives operation rest v) ∧
      ((∀ work ∈ s.units, registry.resolve work.spec.unit ≠ .ok shared.factory) →
        deeds = [.did (.context (.find cx shared.factory)) none] ∧
          v = some (.error (.noHandleBound shared.factory))) := by
  cases SharedHandle.traces_invoke.mp hinvoke with
  | unbound =>
      obtain ⟨_, hfind, -⟩ := hleads
      have hnone : (s.workspace.context cx).find? shared.factory = none := (Prod.mk.inj hfind).1
      refine ⟨?_, fun _ => ⟨rfl, rfl⟩⟩
      intro work hmem hresolved
      have hfactory := Except.ok.inj ((hsound.resolved work hmem).symm.trans hresolved)
      have hfound := (hsound.bound _ _).mpr ⟨work, hmem, hfactory, rfl⟩
      rw [hnone] at hfound
      cases hfound
  | @bound handle rest _ hreceives =>
      obtain ⟨_, hfind, -⟩ := hleads
      have hfound : (s.workspace.context cx).find? shared.factory = some handle :=
        (Prod.mk.inj hfind).1
      obtain ⟨work, hmem, hfactory, rfl⟩ := (hsound.bound _ _).mp hfound
      constructor
      · intro other hother hresolved
        have hsame := Except.ok.inj ((hsound.resolved other hother).symm.trans hresolved)
        obtain rfl := hsound.eq_of_factory_eq hmem hother (hfactory.trans hsame.symm)
        exact ⟨rest, rfl, hreceives⟩
      · intro hnone
        rw [← hfactory] at hnone
        exact absurd (hsound.resolved work hmem) (hnone work hmem)

/-- However a registry has been built and units of work have been opened and ended
in a context: whoever started or ended one has turned to its factory and its handle
only, each unit of work that is open has its handle from the factory that its name
stands for, and the shared handle of every registered name forwards to the handle of
the unit of work whose name stands for the same factory, or fails, naming the
factory, if there is none. -/
theorem routes {registrations : List Registration} (hbuilt : registry.BuiltBy registrations)
    (hspares : Workspace.Spares others cx) (hunits : s.units = [])
    (hempty : s.workspace.context cx = .empty) (hown : ∀ piece ∈ pieces, OwnFactory piece.deeds)
    (hhistory : Follows (Steps registry cx others) pieces s t) :
    (∀ piece ∈ pieces, piece.Confined registry) ∧
    (∀ work ∈ t.units, Designates registrations work.spec.unit work.factory ∧
      work.handle.factory = work.factory ∧ ∃ piece ∈ pieces, piece.act = .start work.spec ∧
        .heard (.create work.factory) (.ok work.handle) ∈ piece.deeds) ∧
    ∀ r ∈ registrations, ∀ shared, r.reply = .ok shared →
      registry.sharedHandle r.name = .ok shared ∧
      ∀ operation deeds v w, (shared.invoke cx operation : Work app _).Traces deeds v →
        Workspace.Leads others deeds t.workspace w →
        (∀ work ∈ t.units, Designates registrations work.spec.unit r.factory →
          ∃ rest, deeds = .did (.context (.find cx r.factory)) (some work.handle) :: rest ∧
            work.handle.Receives operation rest v) ∧
        ((∀ work ∈ t.units, ¬ Designates registrations work.spec.unit r.factory) →
          deeds = [.did (.context (.find cx r.factory)) none] ∧
            v = some (.error (.noHandleBound r.factory))) := by
  have hsound : Sound registry cx t :=
    sound_of_history hspares hown hhistory (sound_of_empty hunits hempty)
  refine ⟨confined_of_history hhistory, ?_, ?_⟩
  · intro work hmem
    refine ⟨hbuilt.resolve_iff.mp (hsound.resolved work hmem), hsound.handle work hmem, ?_⟩
    rcases opened_of_history hhistory work hmem with hmem | hopened
    · rw [hunits] at hmem
      cases hmem
    · exact hopened
  · intro r hr shared hreply
    obtain ⟨-, hshared, -⟩ := hbuilt.sharedHandle_of_reply hr hreply
    refine ⟨hshared, ?_⟩
    intro operation deeds v w hinvoke hleads
    rw [← (hbuilt.carries hr hreply).2]
    simp only [← hbuilt.resolve_iff]
    exact hsound.invoke hinvoke hleads

/-! ## A registry with one unit that is not the default -/

/-- One registration, and another one that fails. -/
def mainRegistrations : List Registration :=
  [⟨"main", ⟨0⟩, .ok ⟨⟨0⟩, "main", ⟨0⟩⟩⟩, ⟨"main", ⟨1⟩, .error (.duplicateUnit "main")⟩]

/-- The registry that they build. -/
def mainRegistry : Registry where
  units := Table.empty.insert "main" ⟨⟨0⟩, ⟨⟨0⟩, "main", ⟨0⟩⟩⟩

theorem builtBy_mainRegistry : mainRegistry.BuiltBy mainRegistrations :=
  ⟨mainRegistry, Registry.registers_iff.mpr (Or.inl ⟨rfl, ⟨0⟩, rfl, rfl⟩), mainRegistry,
    .refused rfl, rfl⟩

theorem designates_default : Designates mainRegistrations defaultUnitName ⟨0⟩ :=
  Or.inr ⟨rfl, by simp [mainRegistrations, entriesOf, unitsOf, Registration.unit?, defaultUnitName],
    "main", rfl⟩

/-- Flushing what is bound. -/
def flushDeeds : List (WorkDeed noJobs) :=
  [.did (.context (.find ⟨0⟩ ⟨0⟩)) (some ⟨0, ⟨0⟩⟩), .did (.transactionActive ⟨0, ⟨0⟩⟩) true,
    .heard (.execute ⟨0, ⟨0⟩⟩ .flush) (.ok .unit)]

/-- A unit of work on the default name takes the sole unit, and its shared handle
forwards to the handle of this unit of work. -/
theorem default_routes_to_sole :
    ∃ w, Follows (Steps mainRegistry ⟨0⟩ Eq) [⟨.start {}, defaultOpened 0 none⟩] ⟨[], {}⟩
        ⟨[defaultWork 0], w⟩ ∧
      mainRegistry.sharedHandle "main" = .ok ⟨⟨0⟩, "main", ⟨0⟩⟩ ∧
      ∃ rest, flushDeeds = .did (.context (.find ⟨0⟩ ⟨0⟩)) (some ⟨0, ⟨0⟩⟩) :: rest ∧
        Handle.Receives ⟨0, ⟨0⟩⟩ .flush rest (some (.ok .unit)) := by
  have hresolved : mainRegistry.resolve ({} : WorkSpec).unit = .ok ⟨0⟩ :=
    builtBy_mainRegistry.resolve_iff.mpr designates_default
  have hstarts : Demarcator.Starts { mode := .immediate } mainRegistry ⟨0⟩ (some {})
      (defaultOpened 0 none) (some (.ok { mode := .immediate, current := some (defaultWork 0) })) :=
    .opened hresolved (.begun none rfl (.ok ()))
  have hstep : Steps mainRegistry ⟨0⟩ Eq ⟨[], {}⟩
      ⟨.start (defaultWork 0).spec, defaultOpened 0 none⟩
      ⟨[defaultWork 0], ({} : Workspace).set ⟨0⟩ (Context.empty.bind ⟨0, ⟨0⟩⟩).2⟩ :=
    .opened (Demarcator.traces_start.mpr hstarts) rfl (fun _ hmem => nomatch hmem)
      (leads_defaultOpened.mpr ⟨rfl, rfl⟩)
  have hopened : Follows (Steps mainRegistry ⟨0⟩ Eq) [⟨.start {}, defaultOpened 0 none⟩] ⟨[], {}⟩
      ⟨[defaultWork 0], _⟩ := ⟨_, hstep, rfl⟩
  have hown : ∀ piece ∈ [(⟨.start {}, defaultOpened 0 none⟩ : Piece noJobs)],
      OwnFactory piece.deeds := by
    intro piece hmem
    rw [List.mem_singleton.mp hmem]
    exact ownFactory_defaultOpened
  have hinvoke : ((⟨⟨0⟩, "main", ⟨0⟩⟩ : SharedHandle).invoke ⟨0⟩ .flush : Work noJobs _).Traces
      flushDeeds (some (.ok .unit)) :=
    SharedHandle.traces_invoke.mpr (.bound (.executed (.active rfl) (.ok .unit)))
  obtain ⟨-, -, hroutes⟩ := routes builtBy_mainRegistry Workspace.spares_eq rfl rfl hown hopened
  obtain ⟨hshared, hinvoked⟩ := hroutes _ List.mem_cons_self _ rfl
  refine ⟨_, hopened, hshared, ?_⟩
  exact (hinvoked .flush flushDeeds _ _ hinvoke ⟨_, rfl, _, rfl, _, rfl, rfl⟩).1 (defaultWork 0)
    List.mem_cons_self designates_default

end History

end Nest

end Demarcation
