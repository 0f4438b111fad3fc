/-
What is bound, before and after.

Only commands to contexts change a workspace, and `Workspace.perform` says how.
While a routine waits, others may act; `others` relates what they may find to
what they may leave behind.  `Workspace.Leads others deeds` relates the
workspaces before and after a trace.  Its answers are then those that the
contexts have given.

What binding and unbinding make of a context is said by `leads_bindDeeds` and
`leads_unbindDeeds`; every other context stays as it is.
-/
import Mathlib.Data.List.Nodup
import Demarcation.Proofs.Conduct

namespace Demarcation

/-! ## One context -/

namespace Table

variable {κ α : Type} [DecidableEq κ]

theorem erase_insert (t : Table κ α) (k : κ) (v : α) : (t.insert k v).erase k = t.erase k := by
  simp only [erase, insert, Table.mk.injEq]
  rw [List.filter_cons_of_neg (by simp), List.filter_filter]
  simp

/-- The table without an entry that is not there. -/
theorem erase_eq_self {t : Table κ α} {k : κ} (h : t.find? k = none) : t.erase k = t := by
  have hentries : t.entries.filter (·.1 ≠ k) = t.entries := by
    rw [List.filter_eq_self]
    intro e he
    simp only [find?, Option.map_eq_none_iff, List.find?_eq_none, decide_eq_true_eq] at h
    simpa using h e he
  cases t
  simp only [erase, Table.mk.injEq]
  exact hentries

theorem find?_eq_some_iff {t : Table κ α} {k : κ} {v : α} :
    t.find? k = some v ↔ (k, v) ∈ t.entries := by
  constructor
  · intro h
    simp only [find?, Option.map_eq_some_iff] at h
    obtain ⟨⟨l, _⟩, hfound, rfl⟩ := h
    obtain rfl : l = k := by simpa using List.find?_some hfound
    exact List.mem_of_find?_eq_some hfound
  · intro h
    obtain ⟨first, rest, hentries⟩ := List.append_of_mem h
    have hkeys := t.nodup
    rw [hentries, List.map_append, List.map_cons, List.nodup_append] at hkeys
    have hfirst : ∀ e ∈ first, ¬ e.1 = k := fun e he =>
      hkeys.2.2 e.1 (List.mem_map_of_mem he) k List.mem_cons_self
    rw [find?, hentries, List.find?_append, List.find?_eq_none.mpr (by simpa using hfirst)]
    simp

end Table

namespace Context

/-- The handle is bound, under the factory that it reports. -/
def Binds (cx : Context) (h : Handle) : Prop := cx.find? h.factory = some h

/-- Every handle that is bound is bound under the factory that it reports. -/
def Keyed (cx : Context) : Prop := ∀ f h, cx.find? f = some h → h.factory = f

/-- The handles that are bound. -/
def handles (cx : Context) : List Handle := (cx.bindings.map Table.values).getD []

/-- Binding and removing again leaves what was bound before, less the binding
that was replaced. -/
theorem unbind_bind (cx : Context) (h : Handle) :
    ((cx.bind h).2.unbind h.factory).2 = (cx.unbind h.factory).2 := by
  cases hb : cx.bindings with
  | none => cases cx; cases hb; simp [unbind, bind, Table.erase_insert]; rfl
  | some table => simp [unbind, bind, hb, Table.erase_insert]

/-- Removing a binding that is not there changes nothing; a context never holds
an empty table. -/
theorem unbind_eq_self {cx : Context} {f : FactoryId} (hbindings : cx.bindings ≠ some .empty)
    (h : cx.find? f = none) : (cx.unbind f).2 = cx := by
  obtain ⟨_ | table⟩ := cx
  · rfl
  · have hempty : table.isEmpty = false := by
      obtain ⟨_ | _, _⟩ := table
      · exact absurd rfl hbindings
      · rfl
    show ({ bindings := if (table.erase f).isEmpty then none else some (table.erase f) } : Context)
      = _
    rw [Table.erase_eq_self h, hempty]
    rfl

theorem binds_bind {cx : Context} {g h : Handle} :
    (cx.bind g).2.Binds h ↔ g = h ∨ (g.factory ≠ h.factory ∧ cx.Binds h) := by
  rw [Binds, find?_bind]
  by_cases hf : g.factory = h.factory
  · rw [if_pos hf, Option.some_inj]
    constructor
    · exact Or.inl
    · rintro (heq | ⟨hne, -⟩)
      · exact heq
      · exact absurd hf hne
  · rw [if_neg hf]
    constructor
    · intro hbinds
      exact Or.inr ⟨hf, hbinds⟩
    · rintro (rfl | ⟨-, hbinds⟩)
      · exact absurd rfl hf
      · exact hbinds

theorem binds_unbind {cx : Context} {f : FactoryId} {h : Handle} :
    (cx.unbind f).2.Binds h ↔ f ≠ h.factory ∧ cx.Binds h := by
  rw [Binds, find?_unbind]
  by_cases hf : f = h.factory
  · rw [if_pos hf]
    constructor
    · intro hbinds
      cases hbinds
    · intro hne
      exact absurd hf hne.1
  · rw [if_neg hf]
    exact (and_iff_right hf).symm

theorem not_binds_empty {h : Handle} : ¬ empty.Binds h := nofun

theorem keyed_empty : empty.Keyed := nofun

theorem Keyed.bind {cx : Context} (hcx : cx.Keyed) (g : Handle) : (cx.bind g).2.Keyed := by
  intro f h hfound
  rw [find?_bind] at hfound
  by_cases hf : g.factory = f
  · rw [if_pos hf] at hfound
    rw [← Option.some.inj hfound, hf]
  · rw [if_neg hf] at hfound
    exact hcx f h hfound

theorem Keyed.unbind {cx : Context} (hcx : cx.Keyed) (g : FactoryId) : (cx.unbind g).2.Keyed := by
  intro f h hfound
  rw [find?_unbind] at hfound
  by_cases hf : g = f
  · rw [if_pos hf] at hfound
    cases hfound
  · rw [if_neg hf] at hfound
    exact hcx f h hfound

theorem Keyed.find?_eq_none_iff {cx : Context} (hcx : cx.Keyed) :
    (∀ f, cx.find? f = none) ↔ ∀ h, ¬ cx.Binds h := by
  constructor
  · intro hnone h hbinds
    rw [Binds, hnone] at hbinds
    cases hbinds
  · intro hunbound f
    cases hfound : cx.find? f with
    | none => rfl
    | some h =>
        have hbinds : cx.Binds h := by
          rw [Binds, hcx f h hfound]
          exact hfound
        exact absurd hbinds (hunbound h)

/-- A handle is bound at most once. -/
theorem Keyed.count_handles {cx : Context} (hcx : cx.Keyed) {h : Handle} :
    cx.handles.count h ≤ 1 ∧ (cx.handles.count h = 1 ↔ cx.Binds h) := by
  obtain ⟨_ | table⟩ := cx
  · exact ⟨Nat.zero_le 1, iff_of_false nofun nofun⟩
  · have hkeys : table.values.map Handle.factory = table.keys := by
      rw [Table.values, Table.keys, List.map_map]
      refine List.map_congr_left ?_
      intro e he
      exact hcx e.1 e.2 (Table.find?_eq_some_iff.mpr he)
    have hnodup : table.values.Nodup := by
      apply List.Nodup.of_map Handle.factory
      rw [hkeys]
      exact table.nodup_keys
    have hmem : h ∈ table.values ↔ ({ bindings := some table } : Context).Binds h := by
      constructor
      · intro hvalue
        obtain ⟨e, he, rfl⟩ := List.mem_map.mp hvalue
        have hfound := Table.find?_eq_some_iff.mpr he
        have hfactory : e.2.factory = e.1 := hcx e.1 e.2 hfound
        rw [Binds, hfactory]
        exact hfound
      · intro hbinds
        exact List.mem_map.mpr ⟨_, Table.find?_eq_some_iff.mp hbinds, rfl⟩
    show table.values.count h ≤ 1 ∧ (table.values.count h = 1 ↔ _)
    rw [← hmem]
    refine ⟨List.nodup_iff_count_le_one.mp hnodup h, ?_⟩
    constructor
    · intro hone
      apply List.count_pos_iff.mp
      omega
    · intro hvalue
      exact List.count_eq_one_of_mem hnodup hvalue

theorem bindings_bind_ne_empty (cx : Context) (h : Handle) :
    (cx.bind h).2.bindings ≠ some .empty := by
  intro hempty
  have hentries := congrArg Table.entries (Option.some.inj hempty)
  cases hentries

end Context

/-! ## Workspaces and traces -/

namespace Workspace

variable {app : Jobs}

/-- What a deed makes of a workspace.  While a call is pending, others act. -/
def Step (others : Workspace → Workspace → Prop) (before : Workspace) :
    WorkDeed app → Workspace → Prop
  | .did (.context command) answer, after => before.perform command = (answer, after)
  | .did (.transactionActive _) _, after => after = before
  | .did (.close _) _, after => after = before
  | .did (.provides ..) _, after => after = before
  | .did (.emit _) _, after => after = before
  | .heard .., after => others before after
  | .lost _, after => others before after

/-- The workspaces that a trace leads to. -/
abbrev Leads (others : Workspace → Workspace → Prop) (deeds : List (WorkDeed app))
    (before after : Workspace) : Prop :=
  Follows (Step others) deeds before after

/-- Nobody but the routine itself changes this context. -/
def Spares (others : Workspace → Workspace → Prop) (cx : ContextId) : Prop :=
  ∀ before after, others before after → after.context cx = before.context cx

variable {others : Workspace → Workspace → Prop} {cx : ContextId} {w w' : Workspace}

/-- Where nobody else acts, every context is spared. -/
theorem spares_eq : Spares Eq cx := by
  intro before after hsame
  rw [hsame]

theorem context_set_self (w : Workspace) (cx : ContextId) (bindings : Context) :
    (w.set cx bindings).context cx = bindings := by
  rw [context_set, if_pos rfl]

theorem leads_bindDeeds {h : Handle} {replaced : Option Handle} :
    Leads others (cx.bindDeeds h replaced : List (WorkDeed app)) w w' ↔
      replaced = (w.context cx).find? h.factory ∧ w' = w.set cx ((w.context cx).bind h).2 := by
  simp only [ContextId.bindDeeds, Leads, follows_cons, follows_nil, Step, perform, Prod.mk.injEq,
    Context.fst_bind]
  constructor
  · rintro ⟨_, ⟨rfl, rfl⟩, _, rfl, rfl⟩
    exact ⟨rfl, rfl⟩
  · rintro ⟨rfl, rfl⟩
    exact ⟨_, ⟨rfl, rfl⟩, _, rfl, rfl⟩

theorem leads_unbindDeeds {f : FactoryId} {removed : Option Handle} :
    Leads others (cx.unbindDeeds f removed : List (WorkDeed app)) w w' ↔
      removed = (w.context cx).find? f ∧ w' = w.set cx ((w.context cx).unbind f).2 := by
  have hnote : ∀ {v}, Leads others (if removed.isSome then [.did (.emit (.unbound cx f)) ()] else [] :
      List (WorkDeed app)) v w' ↔ w' = v := by
    intro v
    cases removed <;> simp [Leads, Step]
  simp only [ContextId.unbindDeeds, Leads, follows_cons] at hnote ⊢
  simp only [hnote, Step, perform, Prod.mk.injEq, Context.fst_unbind]
  constructor
  · rintro ⟨_, ⟨rfl, rfl⟩, rfl⟩
    exact ⟨rfl, rfl⟩
  · rintro ⟨rfl, rfl⟩
    exact ⟨_, ⟨rfl, rfl⟩, rfl⟩

theorem leads_releaseDeeds {work : OpenUnit} {removed : Option Handle} :
    Leads others (work.releaseDeeds cx removed : List (WorkDeed app)) w w' ↔
      removed = (w.context cx).find? work.factory ∧
        w' = w.set cx ((w.context cx).unbind work.factory).2 := by
  simp only [OpenUnit.releaseDeeds, Leads, follows_cons, follows_append, follows_nil, Step]
  constructor
  · rintro ⟨_, rfl, _, hunbind, _, rfl, rfl⟩
    exact leads_unbindDeeds.mp hunbind
  · intro h
    exact ⟨w, rfl, w', leads_unbindDeeds.mpr h, w', rfl, rfl⟩

end Workspace

end Demarcation
