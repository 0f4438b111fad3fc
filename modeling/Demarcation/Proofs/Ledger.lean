/-
A ledger of handles.

Many routines share the contexts and the handles of a process.  A `Scene` is what
they share.  One runs until it waits and then another goes on, so none can say
what it finds bound when it wakes up.  What it can rely on is kept in a `Ledger`.
A handle that was obtained is pending until it is bound, and only the process that
obtained it knows of it.  From then on the handle is placed in that context, for
ever: it is bound there or nowhere.

`Account.Sound` ties the ledger to the scene: what is bound is placed there, under
the factory that it reports, and has not been closed.  Obtaining a handle, binding
it, releasing it and emptying a context keep an account sound.  A release is one
step here.  Between its two deeds a closed handle is still bound, but then nobody
waits.
-/
import Demarcation.Proofs.Applications
import Demarcation.Proofs.Lifetime

namespace Demarcation

variable {app : Jobs} {α β : Type}

/-! ## Scenes -/

/-- What all routines share: the contexts, the handles that factories have handed
out, and those that have been closed. -/
structure Scene where
  workspace : Workspace := {}
  obtained : List Handle := []
  closed : List Handle := []

/-- The handle that the deed closes. -/
def WorkDeed.closed? : WorkDeed app → Option Handle
  | .did (.close handle) _ => some handle
  | _ => none

theorem WorkDeed.closes_iff {h : Handle} {d : WorkDeed app} :
    d.closes h = true ↔ d.closed? = some h := by
  rcases d with ⟨_ | _ | _ | _ | _, _⟩ | ⟨_, _⟩ | _ <;> simp [WorkDeed.closes, closed?]

namespace Scene

/-- What a deed makes of a scene.  A factory opens a new handle, which reports it. -/
structure Step (s : Scene) (d : WorkDeed app) (t : Scene) : Prop where
  workspace : Workspace.Step Eq s.workspace d t.workspace
  obtained : t.obtained = d.handed?.toList ++ s.obtained
  closed : t.closed = d.closed?.toList ++ s.closed
  fresh : ∀ factory handle, d = .heard (.create factory) (.ok handle) →
    handle.factory = factory ∧ handle ∉ s.obtained

/-- An operation may be forwarded to a handle that is bound and open.  Nothing is
asked of other calls. -/
def Admits (s : Scene) : Work.Call app → Prop
  | .execute handle _ => (∃ cx, (s.workspace.context cx).Binds handle) ∧ handle ∉ s.closed
  | _ => True

variable {s t : Scene} {ds : List (WorkDeed app)}

/-- The contexts of a scene change as a workspace does. -/
theorem leads (h : Follows Step ds s t) : Workspace.Leads Eq ds s.workspace t.workspace := by
  induction ds generalizing s with
  | nil =>
      obtain rfl := follows_nil.mp h
      rfl
  | cons d ds ih =>
      obtain ⟨u, hstep, hrest⟩ := h
      exact ⟨u.workspace, hstep.workspace, ih hrest⟩

/-- What was closed before stays closed, and what the deeds close is closed. -/
theorem mem_closed (h : Follows Step ds s t) (x : Handle) :
    x ∈ t.closed ↔ x ∈ s.closed ∨ 0 < closings x ds := by
  induction ds generalizing s with
  | nil =>
      obtain rfl := follows_nil.mp h
      simp
  | cons d ds ih =>
      obtain ⟨u, hstep, hrest⟩ := h
      have hone : x ∈ u.closed ↔ d.closes x = true ∨ x ∈ s.closed := by
        rw [hstep.closed, List.mem_append, Option.mem_toList, WorkDeed.closes_iff]
      rw [ih hrest, hone, closings_cons]
      cases d.closes x <;> simp

/-- Where no factory hands out a handle, none is obtained. -/
theorem obtained_eq (hds : handed ds = []) (h : Follows Step ds s t) :
    t.obtained = s.obtained := by
  induction ds generalizing s with
  | nil =>
      obtain rfl := follows_nil.mp h
      rfl
  | cons d ds ih =>
      obtain ⟨u, hstep, hrest⟩ := h
      obtain ⟨hd, hds⟩ : d.handed? = none ∧ handed ds = [] := by
        rw [handed, List.filterMap_eq_nil_iff] at hds
        exact ⟨hds d List.mem_cons_self,
          List.filterMap_eq_nil_iff.mpr fun e he => hds e (List.mem_cons_of_mem d he)⟩
      rw [ih hds hrest, hstep.obtained, hd]
      rfl

/-- A deed that obtains nothing, closes nothing and leaves the contexts alone. -/
theorem Step.eq_of_idle {d : WorkDeed app} (h : s.Step d t) (hhanded : d.handed? = none)
    (hclosed : d.closed? = none) (hworkspace : t.workspace = s.workspace) : t = s := by
  have hobtained : t.obtained = s.obtained := by
    rw [h.obtained, hhanded]
    rfl
  have hsame : t.closed = s.closed := by
    rw [h.closed, hclosed]
    rfl
  cases s
  cases t
  cases hworkspace
  cases hobtained
  cases hsame
  rfl

/-- A neutral deed changes nothing. -/
theorem Step.eq_of_neutral {d : WorkDeed app} (h : s.Step d t) (hd : d.Neutral) : t = s := by
  rcases d with ⟨_ | _ | _ | _ | _, _⟩ | ⟨call, _⟩ | _
  · cases hd
  · exact h.eq_of_idle rfl rfl h.workspace
  · cases hd
  · exact h.eq_of_idle rfl rfl h.workspace
  · exact h.eq_of_idle rfl rfl h.workspace
  · cases call with
    | create => cases hd
    | _ => exact h.eq_of_idle rfl rfl h.workspace.symm
  · exact h.eq_of_idle rfl rfl h.workspace.symm

/-- A command that reads changes nothing. -/
theorem Step.eq_of_reads {command : Work.Command} {answer : Work.Answer command}
    (h : s.Step (.did command answer : WorkDeed app) t) (hreads : command.Reads) : t = s := by
  cases command with
  | context command =>
      cases command with
      | find => exact h.eq_of_idle rfl rfl (Prod.mk.inj h.workspace).2.symm
      | isEmpty => exact h.eq_of_idle rfl rfl (Prod.mk.inj h.workspace).2.symm
      | _ => cases hreads
  | close => cases hreads
  | _ => exact h.eq_of_idle rfl rfl h.workspace

theorem eq_of_reads {x : Demarcation.Step α} {a : α} (hx : x.Reads) (htraces : x.Traces ds a)
    (h : Follows Step ds s t) : t = s := by
  refine Follows.keeps (P := (· = s)) ?_ h rfl
  intro d hd u v hstep hu
  obtain ⟨command, answer, rfl, hreads⟩ := hx.of_traces htraces d hd
  rw [hstep.eq_of_reads hreads, hu]

theorem eq_of_neutral (hds : Neutral ds) (h : Follows Step ds s t) : t = s := by
  refine Follows.keeps (P := (· = s)) ?_ h rfl
  intro d hd u v hstep hu
  rw [hstep.eq_of_neutral (hds d hd), hu]

end Scene

/-! ## Ledgers -/

/-- What has become of a handle that was obtained. -/
inductive Fate where
  /-- The process has it and has not bound it yet. -/
  | pending (process : Nat)
  /-- It is bound in this context, or not bound any more. -/
  | placed (cx : ContextId)

namespace Fate

/-- The handle is placed. -/
def Settled : Fate → Prop
  | .pending _ => False
  | .placed _ => True

/-- Nobody but the process changes this. -/
def Owned (i : Nat) : Fate → Prop
  | .pending j => j = i
  | .placed _ => True

/-- The process does not change this. -/
def Foreign (i : Nat) : Fate → Prop
  | .pending j => j ≠ i
  | .placed _ => True

end Fate

/-- What is known of handles. -/
abbrev Ledger : Type := Handle → Option Fate

namespace Ledger

/-- Entries of this kind stay as they are. -/
def Keeps (kind : Fate → Prop) (before after : Ledger) : Prop :=
  ∀ h fate, before h = some fate → kind fate → after h = some fate

/-- The ledger with this fate for the handle. -/
def put (l : Ledger) (h : Handle) (fate : Fate) : Ledger := Function.update l h (some fate)

variable {kind other : Fate → Prop} {l m n : Ledger} {h : Handle} {fate : Fate} {i j : Nat}

theorem put_self : l.put h fate h = some fate := by
  rw [put, Function.update_self]

theorem put_of_ne {x : Handle} (hx : x ≠ h) : l.put h fate x = l x := by
  rw [put, Function.update_of_ne hx]

theorem Keeps.refl (l : Ledger) : l.Keeps kind l := fun _ _ h _ => h

theorem Keeps.trans (hlm : l.Keeps kind m) (hmn : m.Keeps kind n) : l.Keeps kind n :=
  fun h fate hl hkind => hmn h fate (hlm h fate hl hkind) hkind

theorem Keeps.mono (hlm : l.Keeps kind m) (hkind : ∀ fate, other fate → kind fate) :
    l.Keeps other m :=
  fun h fate hl hother => hlm h fate hl (hkind fate hother)

theorem Keeps.settled_of_owned (hlm : l.Keeps (Fate.Owned i) m) : l.Keeps Fate.Settled m := by
  refine hlm.mono ?_
  rintro (_ | _) hsettled
  · cases hsettled
  · trivial

theorem Keeps.settled_of_foreign (hlm : l.Keeps (Fate.Foreign i) m) : l.Keeps Fate.Settled m := by
  refine hlm.mono ?_
  rintro (_ | _) hsettled
  · cases hsettled
  · trivial

/-- What one process does leaves alone what is owned by another. -/
theorem Keeps.owned_of_foreign (hne : i ≠ j) (hlm : l.Keeps (Fate.Foreign j) m) :
    l.Keeps (Fate.Owned i) m := by
  refine hlm.mono ?_
  rintro (k | _) howned
  · obtain rfl : k = i := howned
    exact hne
  · trivial

theorem keeps_put (hentry : ∀ old, l h = some old → ¬ kind old) : l.Keeps kind (l.put h fate) := by
  intro x old hx hkind
  by_cases hxh : x = h
  · subst hxh
    exact absurd hkind (hentry old hx)
  · rw [put_of_ne hxh, hx]

end Ledger

/-! ## Accounts -/

/-- A scene, with the ledger of its handles. -/
structure Account where
  scene : Scene
  ledger : Ledger

namespace Account

/-- The ledger is true to the scene. -/
structure Sound (s : Account) : Prop where
  bound : ∀ {cx f h}, (s.scene.workspace.context cx).find? f = some h →
    h.factory = f ∧ s.ledger h = some (.placed cx) ∧ h ∉ s.scene.closed
  known : ∀ {h fate}, s.ledger h = some fate → h ∈ s.scene.obtained
  closed : ∀ {h}, h ∈ s.scene.closed → h ∈ s.scene.obtained
  pending : ∀ {h i}, s.ledger h = some (.pending i) → h ∉ s.scene.closed

variable {s : Account} {i : Nat} {h : Handle} {cx : ContextId}

theorem Sound.keyed (hs : s.Sound) (cx : ContextId) : (s.scene.workspace.context cx).Keyed :=
  fun _ _ hfound => (hs.bound hfound).1

/-- A new handle is pending for the process that obtains it. -/
theorem Sound.obtain (hs : s.Sound) {scene : Scene} {factory : FactoryId}
    (hstep : s.scene.Step (.heard (.create factory) (.ok h) : WorkDeed app) scene) :
    h.factory = factory ∧ s.ledger.Keeps (Fate.Foreign i) (s.ledger.put h (.pending i)) ∧
      Sound ⟨scene, s.ledger.put h (.pending i)⟩ := by
  obtain ⟨hfactory, hfresh⟩ := hstep.fresh factory h rfl
  have hworkspace : scene.workspace = s.scene.workspace := hstep.workspace.symm
  have hobtained : scene.obtained = h :: s.scene.obtained := hstep.obtained
  have hclosed : scene.closed = s.scene.closed := hstep.closed
  have hunknown : s.ledger h = none := by
    cases hentry : s.ledger h with
    | none => rfl
    | some fate => exact absurd (hs.known hentry) hfresh
  refine ⟨hfactory, Ledger.keeps_put (by simp [hunknown]), ?_, ?_, ?_, ?_⟩
  · intro cx f x hfound
    rw [hworkspace] at hfound
    obtain ⟨hkey, hplaced, hopen⟩ := hs.bound hfound
    refine ⟨hkey, ?_, hclosed ▸ hopen⟩
    have hne : x ≠ h := by
      rintro rfl
      rw [hunknown] at hplaced
      cases hplaced
    exact (Ledger.put_of_ne hne).trans hplaced
  · intro x fate hentry
    rw [hobtained]
    by_cases hx : x = h
    · exact hx ▸ List.mem_cons_self
    · exact List.mem_cons_of_mem h (hs.known ((Ledger.put_of_ne hx).symm.trans hentry))
  · intro x hx
    rw [hobtained]
    exact List.mem_cons_of_mem h (hs.closed (hclosed ▸ hx))
  · intro x j hentry
    rw [hclosed]
    by_cases hx : x = h
    · exact fun hmem => hfresh (hx ▸ hs.closed hmem)
    · exact hs.pending ((Ledger.put_of_ne hx).symm.trans hentry)

/-- A pending handle may be placed anywhere. -/
theorem Sound.place (hs : s.Sound) (hentry : s.ledger h = some (.pending i)) (cx : ContextId) :
    s.ledger.Keeps (Fate.Foreign i) (s.ledger.put h (.placed cx)) ∧
      Sound ⟨s.scene, s.ledger.put h (.placed cx)⟩ := by
  refine ⟨Ledger.keeps_put ?_, ?_, ?_, hs.closed, ?_⟩
  · intro old hold hforeign
    rw [hentry] at hold
    cases hold
    exact hforeign rfl
  · intro cx' f x hfound
    obtain ⟨hkey, hplaced, hopen⟩ := hs.bound hfound
    refine ⟨hkey, ?_, hopen⟩
    have hne : x ≠ h := by
      rintro rfl
      rw [hentry] at hplaced
      cases hplaced
    exact (Ledger.put_of_ne hne).trans hplaced
  · intro x fate hx
    by_cases hxh : x = h
    · rw [hxh]
      exact hs.known hentry
    · exact hs.known ((Ledger.put_of_ne hxh).symm.trans hx)
  · intro x j hx
    by_cases hxh : x = h
    · rw [hxh] at hx
      cases Ledger.put_self.symm.trans hx
    · exact hs.pending ((Ledger.put_of_ne hxh).symm.trans hx)

/-- An open handle may be bound where it is placed. -/
theorem Sound.bind (hs : s.Sound) (hplaced : s.ledger h = some (.placed cx))
    (hopen : h ∉ s.scene.closed) {scene : Scene} {replaced : Option Handle}
    (hbind : Follows Scene.Step (cx.bindDeeds h replaced : List (WorkDeed app)) s.scene scene) :
    Sound ⟨scene, s.ledger⟩ := by
  obtain ⟨-, hworkspace⟩ := Workspace.leads_bindDeeds.mp (Scene.leads hbind)
  have hobtained : scene.obtained = s.scene.obtained := Scene.obtained_eq rfl hbind
  have hclosed : ∀ x, x ∈ scene.closed ↔ x ∈ s.scene.closed := by
    intro x
    rw [Scene.mem_closed hbind]
    exact or_iff_left (by simp [ContextId.bindDeeds, closings, WorkDeed.closes])
  refine ⟨?_, ?_, ?_, ?_⟩
  · intro cx' f x hfound
    rw [hworkspace, Workspace.context_set] at hfound
    rw [hclosed]
    by_cases hcx : cx = cx'
    · subst hcx
      rw [if_pos rfl, Context.find?_bind] at hfound
      by_cases hf : h.factory = f
      · rw [if_pos hf] at hfound
        cases hfound
        exact ⟨hf, hplaced, hopen⟩
      · rw [if_neg hf] at hfound
        exact hs.bound hfound
    · rw [if_neg hcx] at hfound
      exact hs.bound hfound
  · intro x fate hx
    rw [hobtained]
    exact hs.known hx
  · intro x hx
    rw [hobtained]
    exact hs.closed ((hclosed x).mp hx)
  · intro x j hx
    rw [hclosed]
    exact hs.pending hx

/-- Where less is bound, and more is closed that was placed, the account stays sound. -/
theorem Sound.shrink (hs : s.Sound) {scene : Scene} (hobtained : scene.obtained = s.scene.obtained)
    (hbound : ∀ cx f x, (scene.workspace.context cx).find? f = some x →
      (s.scene.workspace.context cx).find? f = some x ∧ x ∉ scene.closed)
    (hclosed : ∀ x ∈ scene.closed, x ∈ s.scene.closed ∨ ∃ cx, s.ledger x = some (.placed cx)) :
    Sound ⟨scene, s.ledger⟩ := by
  refine ⟨?_, ?_, ?_, ?_⟩
  · intro cx f x hfound
    obtain ⟨hbefore, hopen⟩ := hbound cx f x hfound
    obtain ⟨hkey, hplaced, -⟩ := hs.bound hbefore
    exact ⟨hkey, hplaced, hopen⟩
  · intro x fate hx
    rw [hobtained]
    exact hs.known hx
  · intro x hx
    rw [hobtained]
    rcases hclosed x hx with hbefore | ⟨cx, hplaced⟩
    · exact hs.closed hbefore
    · exact hs.known hplaced
  · intro x j hx hmem
    rcases hclosed x hmem with hbefore | ⟨cx, hplaced⟩
    · exact hs.pending hx hbefore
    · rw [hx] at hplaced
      cases hplaced

/-- Deeds that obtain nothing, and close handles that are placed in one context and not
bound there afterwards. -/
theorem Sound.close (hs : s.Sound) {ds : List (WorkDeed app)} {scene : Scene} {bindings : Context}
    (hfollows : Follows Scene.Step ds s.scene scene) (hhanded : handed ds = [])
    (hworkspace : scene.workspace = s.scene.workspace.set cx bindings)
    (hbindings : ∀ f x, bindings.find? f = some x →
      (s.scene.workspace.context cx).find? f = some x ∧ closings x ds = 0)
    (hplaced : ∀ x, 0 < closings x ds → s.ledger x = some (.placed cx)) :
    Sound ⟨scene, s.ledger⟩ := by
  refine hs.shrink (Scene.obtained_eq hhanded hfollows) ?_ ?_
  · intro cx' f x hfound
    have hkept : (s.scene.workspace.context cx').find? f = some x ∧ closings x ds = 0 := by
      rw [hworkspace, Workspace.context_set] at hfound
      by_cases hcx : cx = cx'
      · subst hcx
        rw [if_pos rfl] at hfound
        exact hbindings f x hfound
      · -- what is bound elsewhere is placed elsewhere
        rw [if_neg hcx] at hfound
        refine ⟨hfound, Nat.eq_zero_of_not_pos ?_⟩
        intro hclosing
        cases (hplaced x hclosing).symm.trans (hs.bound hfound).2.1
        exact hcx rfl
    obtain ⟨hbefore, hopen⟩ := hkept
    rw [Scene.mem_closed hfollows, hopen]
    exact ⟨hbefore, not_or.mpr ⟨(hs.bound hbefore).2.2, Nat.lt_irrefl 0⟩⟩
  · intro x hx
    rcases (Scene.mem_closed hfollows x).mp hx with hbefore | hclosing
    · exact Or.inl hbefore
    · exact Or.inr ⟨cx, hplaced x hclosing⟩

/-- Closing a handle and removing the binding of its factory where it is placed. -/
theorem Sound.release (hs : s.Sound) (hplaced : s.ledger h = some (.placed cx)) {scene : Scene}
    {removed : Option Handle} (hfollows : Follows Scene.Step
      (.did (.close h) () :: cx.unbindDeeds h.factory removed : List (WorkDeed app))
      s.scene scene) :
    Sound ⟨scene, s.ledger⟩ := by
  have hhanded : handed (.did (.close h) () :: cx.unbindDeeds h.factory removed :
      List (WorkDeed app)) = [] := handed_unbindDeeds
  have hclosings : ∀ x, 0 < closings x (.did (.close h) () ::
      cx.unbindDeeds h.factory removed : List (WorkDeed app)) → x = h := by
    intro x hx
    by_cases hxh : h = x
    · exact hxh.symm
    · simp [closings_cons, WorkDeed.closes, hxh] at hx
  obtain ⟨u, rfl, hunbind⟩ := Scene.leads hfollows
  obtain ⟨-, hworkspace⟩ := Workspace.leads_unbindDeeds.mp hunbind
  refine hs.close hfollows hhanded hworkspace ?_ ?_
  · intro f x hfound
    rw [Context.find?_unbind] at hfound
    by_cases hf : h.factory = f
    · rw [if_pos hf] at hfound
      cases hfound
    · rw [if_neg hf] at hfound
      refine ⟨hfound, Nat.eq_zero_of_not_pos ?_⟩
      intro hclosing
      rw [hclosings x hclosing] at hfound
      exact hf (hs.bound hfound).1
  · intro x hclosing
    rw [hclosings x hclosing]
    exact hplaced

theorem Sound.releaseDeeds (hs : s.Sound) {work : OpenUnit} {removed : Option Handle}
    {scene : Scene} (hplaced : s.ledger work.handle = some (.placed cx))
    (hfactory : work.handle.factory = work.factory)
    (hfollows : Follows Scene.Step (work.releaseDeeds cx removed : List (WorkDeed app))
      s.scene scene) : Sound ⟨scene, s.ledger⟩ := by
  rw [OpenUnit.releaseDeeds, ← List.cons_append, follows_append, ← hfactory] at hfollows
  obtain ⟨between, hrelease, htold⟩ := hfollows
  rw [Scene.eq_of_neutral (by simp [WorkDeed.Neutral]) htold]
  exact hs.release hplaced hrelease

/-- Emptying a context closes what was bound in it. -/
theorem Sound.emptyDeeds (hs : s.Sound) {found : Option (Table FactoryId Handle)} {scene : Scene}
    (hfollows : Follows Scene.Step (cx.emptyDeeds found : List (WorkDeed app)) s.scene scene) :
    Sound ⟨scene, s.ledger⟩ := by
  obtain ⟨rfl, hworkspace⟩ := leads_emptyDeeds.mp (Scene.leads hfollows)
  have hhanded : handed (cx.emptyDeeds (s.scene.workspace.context cx).bindings :
      List (WorkDeed app)) = [] :=
    handed_of_action ((ContextId.traces_unbindAll (u := ())).mpr ⟨_, rfl⟩)
  refine hs.close hfollows hhanded hworkspace ?_ ?_
  · intro f x hfound
    cases hfound
  · -- what is closed was bound in the context
    intro x hclosing
    rw [closings_emptyDeeds] at hclosing
    obtain ⟨hmost, hone⟩ := (hs.keyed cx).count_handles (h := x)
    have hbinds := hone.mp (Nat.le_antisymm hmost hclosing)
    exact (hs.bound hbinds).2.1

end Account

end Demarcation
