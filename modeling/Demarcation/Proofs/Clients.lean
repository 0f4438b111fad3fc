/-
Code that uses a context.

A `Client` binds handles in a context, removes them, asks what is bound, and empties
the context, with a callback for each handle that was bound.  A callback is again a
client of the context, which has been emptied by then.  In between, a client may do
whatever leaves the context alone.

`Client.Makes` is the history of its uses of the context, and it has one for each of
its runs (`runs_step_iff`).  A history says what the context has to answer: a handle
stands for its factory from its binding on, until the factory is bound again or
unbound, or the context is emptied (`Stands`).  And it says where each handle went:
handles are replaced, removed, released, or still bound.
-/
import Demarcation.Proofs.Isolation
import Demarcation.Proofs.Reaching

namespace Demarcation

/-! ## Histories of a context -/

/-- A use of a context, with what it answers. -/
inductive Use where
  | bound (handle : Handle) (replaced : Option Handle)
  | unbound (factory : FactoryId) (removed : Option Handle)
  /-- Every binding is removed at once. -/
  | emptied (taken : List Handle)
  /-- One of the handles that were taken is passed on. -/
  | released (handle : Handle)
  | current (factory : FactoryId) (found : Except Failure Handle)
  | hasBinding (factory : FactoryId) (answer : Bool)
  | isEmpty (answer : Bool)

namespace Use

/-- The use leaves no earlier binding of the factory. -/
@[simp] def Ends (factory : FactoryId) : Use → Prop
  | .bound handle _ => handle.factory = factory
  | .unbound other _ => other = factory
  | .emptied _ => True
  | .released _ | .current .. | .hasBinding .. | .isEmpty _ => False

@[simp] def handlesBound : Use → List Handle
  | .bound handle _ => [handle]
  | _ => []

@[simp] def handlesReplaced : Use → List Handle
  | .bound _ replaced => replaced.toList
  | _ => []

@[simp] def handlesRemoved : Use → List Handle
  | .unbound _ removed => removed.toList
  | _ => []

@[simp] def handlesTaken : Use → List Handle
  | .emptied taken => taken
  | _ => []

@[simp] def handlesReleased : Use → List Handle
  | .released handle => [handle]
  | _ => []

end Use

/-- The handles that a part of each use in the history has. -/
def gathered (part : Use → List Handle) (history : List Use) : Multiset Handle :=
  (history.flatMap part : List Handle)

@[simp] theorem gathered_nil {part : Use → List Handle} : gathered part [] = 0 := rfl

@[simp] theorem gathered_cons {part : Use → List Handle} {use : Use} {history : List Use} :
    gathered part (use :: history) = part use + gathered part history := rfl

@[simp] theorem gathered_append {part : Use → List Handle} {earlier later : List Use} :
    gathered part (earlier ++ later) = gathered part earlier + gathered part later := by
  rw [gathered, List.flatMap_append, ← Multiset.coe_add]
  rfl

/-- The handle has been bound for the factory, and this binding has not ended. -/
def Stands (history : List Use) (factory : FactoryId) (handle : Handle) : Prop :=
  ∃ earlier replaced later, history = earlier ++ .bound handle replaced :: later ∧
    handle.factory = factory ∧ ∀ use ∈ later, ¬ use.Ends factory

/-- After this history the use answers as a finite map from factories to handles does. -/
def Use.Answers (history : List Use) : Use → Prop
  | .bound handle replaced => ∀ h, replaced = some h ↔ Stands history handle.factory h
  | .unbound factory removed => ∀ h, removed = some h ↔ Stands history factory h
  | .emptied taken => taken.Nodup ∧ ∀ h, h ∈ taken ↔ Stands history h.factory h
  | .released _ => True
  | .current factory found =>
    (∀ h, found = .ok h ↔ Stands history factory h) ∧
      ∀ failure, found = .error failure →
        failure = .noHandleBound factory ∧ ∀ h, ¬ Stands history factory h
  | .hasBinding factory answer => answer = true ↔ ∃ h, Stands history factory h
  | .isEmpty answer => answer = true ↔ ∀ factory h, ¬ Stands history factory h

section Histories

variable {history : List Use} {use : Use} {factory : FactoryId} {handle : Handle}

theorem not_stands_nil : ¬ Stands [] factory handle := by
  rintro ⟨earlier, replaced, later, hsplit, -⟩
  cases earlier <;> cases hsplit

/-- One more use: it binds the handle, or leaves the binding as it was. -/
theorem stands_concat :
    Stands (history ++ [use]) factory handle ↔
      (∃ replaced, use = .bound handle replaced ∧ handle.factory = factory) ∨
        (¬ use.Ends factory ∧ Stands history factory handle) := by
  constructor
  · rintro ⟨earlier, replaced, later, hsplit, hfactory, hlater⟩
    rcases List.eq_nil_or_concat' later with rfl | ⟨later, last, rfl⟩
    · obtain ⟨-, hlast⟩ := List.append_inj' hsplit rfl
      exact Or.inl ⟨replaced, List.singleton_inj.mp hlast, hfactory⟩
    · rw [← List.cons_append, ← List.append_assoc] at hsplit
      obtain ⟨rfl, hlast⟩ := List.append_inj' hsplit rfl
      obtain rfl := List.singleton_inj.mp hlast
      refine Or.inr ⟨hlater _ (List.mem_append_right _ (List.mem_singleton_self _)), ?_⟩
      refine ⟨earlier, replaced, later, rfl, hfactory, ?_⟩
      intro e he
      exact hlater e (List.mem_append_left _ he)
  · rintro (⟨replaced, rfl, hfactory⟩ | ⟨hlast, earlier, replaced, later, rfl, hfactory, hlater⟩)
    · exact ⟨history, replaced, [], rfl, hfactory, fun _ he => nomatch he⟩
    · refine ⟨earlier, replaced, later ++ [use], by simp, hfactory, ?_⟩
      intro e he
      rcases List.mem_append.mp he with he | he
      · exact hlater e he
      · rw [List.mem_singleton.mp he]
        exact hlast

end Histories

/-! ## What a history makes of a context -/

namespace Table

variable {κ α : Type} [DecidableEq κ]

/-- The values of a table: the one under a key, and the others. -/
theorem values_perm (t : Table κ α) (k : κ) :
    t.values.Perm ((t.find? k).toList ++ (t.erase k).values) := by
  cases hfound : t.find? k with
  | none =>
      rw [erase_eq_self hfound]
      exact .refl _
  | some v =>
      obtain ⟨first, rest, hentries⟩ := List.append_of_mem (find?_eq_some_iff.mp hfound)
      have hkeys := t.nodup
      rw [hentries, List.map_append, List.map_cons, List.nodup_middle, List.nodup_cons] at hkeys
      have hothers : ∀ e ∈ first ++ rest, e.1 ≠ k := by
        intro e he hk
        refine hkeys.1 ?_
        rw [← List.map_append, List.mem_map]
        exact ⟨e, he, hk⟩
      have herase : (t.erase k).entries = first ++ rest := by
        have hkept : (first ++ rest).filter (·.1 ≠ k) = first ++ rest := by
          rw [List.filter_eq_self]
          simpa using hothers
        show t.entries.filter (·.1 ≠ k) = _
        rw [hentries, List.filter_append, List.filter_cons_of_neg (by simp),
          ← List.filter_append, hkept]
      rw [values, values, hentries, herase, List.map_append, List.map_append, List.map_cons]
      exact List.perm_middle

end Table

namespace Context

variable {app : Jobs} {c c' : Context} {use : Use} {history : List Use}

/-- What a use makes of a context. -/
def Undergoes (c : Context) : Use → Context → Prop
  | .bound handle replaced, c' =>
    replaced = c.find? handle.factory ∧ c' = (c.bind handle).2
  | .unbound factory removed, c' => removed = c.find? factory ∧ c' = (c.unbind factory).2
  | .emptied taken, c' => taken = c.handles ∧ c' = .empty
  | .released _, c' => c' = c
  | .current factory found, c' =>
    found = ((c.find? factory).elim (.error (.noHandleBound factory)) .ok) ∧ c' = c
  | .hasBinding factory answer, c' => answer = (c.find? factory).isSome ∧ c' = c
  | .isEmpty answer, c' => answer = c.isEmpty ∧ c' = c

/-- A table that is there is not empty, and its keys are the factories of its handles. -/
structure Sound (c : Context) : Prop where
  nonempty : c.bindings ≠ some .empty
  keyed : c.Keyed

theorem sound_empty : Sound empty := ⟨nofun, keyed_empty⟩

theorem Sound.isEmpty_iff (h : c.Sound) : c.isEmpty = true ↔ ∀ f, c.find? f = none := by
  obtain ⟨_ | table⟩ := c
  · exact iff_of_true rfl fun _ => rfl
  · refine iff_of_false nofun ?_
    intro hnone
    obtain ⟨_ | ⟨⟨f, g⟩, rest⟩, hkeys⟩ := table
    · exact h.nonempty rfl
    · have hfound : (⟨(f, g) :: rest, hkeys⟩ : Table FactoryId Handle).find? f = some g :=
        Table.find?_eq_some_iff.mpr List.mem_cons_self
      exact Option.some_ne_none g (hfound.symm.trans (hnone f))

theorem Sound.bind (h : c.Sound) (handle : Handle) : (c.bind handle).2.Sound :=
  ⟨bindings_bind_ne_empty c handle, h.keyed.bind handle⟩

theorem Sound.unbind (h : c.Sound) (factory : FactoryId) : (c.unbind factory).2.Sound := by
  refine ⟨?_, h.keyed.unbind factory⟩
  obtain ⟨_ | table⟩ := c
  · exact nofun
  · show (if (table.erase factory).isEmpty then none else some (table.erase factory)) ≠ some .empty
    split
    case isTrue => exact nofun
    case isFalse hrest =>
      intro hempty
      rw [Option.some.inj hempty] at hrest
      exact hrest rfl

theorem Sound.undergoes (h : c.Sound) (huse : c.Undergoes use c') : c'.Sound := by
  cases use with
  | bound handle replaced => exact huse.2 ▸ h.bind handle
  | unbound factory removed => exact huse.2 ▸ h.unbind factory
  | emptied taken => exact huse.2 ▸ sound_empty
  | released handle => exact huse ▸ h
  | current factory found => exact huse.2 ▸ h
  | hasBinding factory answer => exact huse.2 ▸ h
  | isEmpty answer => exact huse.2 ▸ h

/-- Whatever is done to the contexts, each of them stays sound. -/
theorem Sound.step {w u : Workspace} {cx : ContextId} {d : WorkDeed app}
    (h : (w.context cx).Sound) (hstep : Workspace.Step Eq w d u) : (u.context cx).Sound := by
  have hset : ∀ {other : ContextId} {bound : Context}, (other = cx → bound.Sound) →
      ((w.set other bound).context cx).Sound := by
    intro other bound hbound
    rw [Workspace.context_set]
    by_cases hcx : other = cx
    · rw [if_pos hcx]
      exact hbound hcx
    · rw [if_neg hcx]
      exact h
  rcases Workspace.step_cases hstep with ⟨-, rfl⟩ | ⟨command, answer, rfl, hperform⟩
  · exact h
  · obtain rfl := (Prod.mk.inj hperform).2
    cases command with
    | create => exact h
    | bind other handle => exact hset fun hcx => (hcx ▸ h : (w.context other).Sound).bind handle
    | unbind other factory =>
        exact hset fun hcx => (hcx ▸ h : (w.context other).Sound).unbind factory
    | unbindAll other => exact hset fun _ => sound_empty
    | find other factory => exact h
    | isEmpty other => exact h

/-- What a use makes of the bindings: it adds one, and those that it ends are gone. -/
theorem find?_undergoes (huse : c.Undergoes use c') {f : FactoryId} {h : Handle} :
    c'.find? f = some h ↔
      (∃ replaced, use = .bound h replaced ∧ h.factory = f) ∨
        (¬ use.Ends f ∧ c.find? f = some h) := by
  cases use with
  | bound handle replaced =>
      rw [huse.2, find?_bind]
      by_cases hf : handle.factory = f
      · simp only [hf, if_true, Use.Ends, not_true_eq_false, false_and, or_false, Use.bound.injEq,
          Option.some.injEq]
        constructor
        · rintro rfl
          exact ⟨replaced, ⟨rfl, rfl⟩, hf⟩
        · rintro ⟨_, ⟨rfl, -⟩, -⟩
          rfl
      · simp only [hf, if_false, Use.Ends, not_false_eq_true, true_and, Use.bound.injEq]
        refine (or_iff_right ?_).symm
        rintro ⟨_, ⟨rfl, -⟩, hfactory⟩
        exact hf hfactory
  | unbound factory removed =>
      rw [huse.2, find?_unbind]
      by_cases hf : factory = f <;> simp [hf]
  | emptied taken => simp [huse.2, find?_empty]
  | released handle =>
      obtain rfl : c' = c := huse
      simp
  | current factory found => simp [huse.2]
  | hasBinding factory answer => simp [huse.2]
  | isEmpty answer => simp [huse.2]

/-- Where the handles are: before the use, and after it. -/
theorem handles_bind (c : Context) (handle : Handle) :
    (handle :: c.handles).Perm ((c.find? handle.factory).toList ++ (c.bind handle).2.handles) := by
  obtain ⟨_ | table⟩ := c
  · exact .refl _
  · exact ((table.values_perm handle.factory).cons handle).trans List.perm_middle.symm

theorem handles_unbind (c : Context) (f : FactoryId) :
    c.handles.Perm ((c.find? f).toList ++ (c.unbind f).2.handles) := by
  obtain ⟨_ | table⟩ := c
  · exact .refl _
  · have hrest : (Context.unbind ⟨some table⟩ f).2.handles = (table.erase f).values := by
      by_cases hempty : (table.erase f).isEmpty = true
      · have hnone : (table.erase f).values = [] := by
          rw [Table.values, List.isEmpty_iff.mp hempty, List.map_nil]
        simp only [Context.unbind, hempty, if_true, handles, Option.map_none, Option.getD_none,
          hnone]
      · simp only [Context.unbind, hempty, Bool.false_eq_true, if_false, handles, Option.map_some,
          Option.getD_some]
    rw [hrest]
    exact table.values_perm f

/-- A use keeps the handles. -/
theorem conserves_use (huse : c.Undergoes use c') :
    (use.handlesBound + c.handles : Multiset Handle) =
      use.handlesReplaced + use.handlesRemoved + use.handlesTaken + c'.handles := by
  cases use with
  | bound handle replaced =>
      obtain ⟨rfl, rfl⟩ := huse
      simpa using handles_bind c handle
  | unbound factory removed =>
      obtain ⟨rfl, rfl⟩ := huse
      simpa using handles_unbind c factory
  | emptied taken =>
      obtain ⟨rfl, rfl⟩ := huse
      simp [handles, empty]
  | released handle =>
      obtain rfl : c' = c := huse
      simp
  | current factory found =>
      obtain rfl := huse.2
      simp
  | hasBinding factory answer =>
      obtain rfl := huse.2
      simp
  | isEmpty answer =>
      obtain rfl := huse.2
      simp

/-- A history keeps the handles: those that were bound, and those that were there before,
are replaced, removed or taken, or are there after it. -/
theorem conserves (h : Follows Undergoes history c c') :
    gathered Use.handlesBound history + c.handles =
      gathered Use.handlesReplaced history + gathered Use.handlesRemoved history +
        gathered Use.handlesTaken history + c'.handles := by
  induction history generalizing c with
  | nil =>
      obtain rfl := follows_nil.mp h
      rfl
  | cons use history ih =>
      obtain ⟨d, huse, hrest⟩ := h
      have hfirst := conserves_use huse
      have hlater := ih hrest
      ext g
      replace hfirst := congrArg (Multiset.count g) hfirst
      replace hlater := congrArg (Multiset.count g) hlater
      simp only [gathered_cons, Multiset.count_add] at hfirst hlater ⊢
      omega

/-- After a history from the empty context, what is bound is what stands. -/
theorem find?_iff_stands (h : Follows Undergoes history empty c) {f : FactoryId} {g : Handle} :
    c.find? f = some g ↔ Stands history f g := by
  induction history using List.reverseRecOn generalizing c g with
  | nil =>
      obtain rfl := follows_nil.mp h
      exact iff_of_false nofun not_stands_nil
  | append_singleton history use ih =>
      obtain ⟨d, hhistory, c, huse, rfl⟩ := follows_append.mp h
      rw [find?_undergoes huse, stands_concat, ih hhistory]

theorem sound_of_history (h : Follows Undergoes history empty c) : c.Sound :=
  h.keeps (fun _ _ _ _ huse hd => hd.undergoes huse) sound_empty

/-- The next use answers as the map does. -/
theorem answers_of_undergoes (h : Follows Undergoes history empty c)
    (huse : c.Undergoes use c') : use.Answers history := by
  have hstands : ∀ {f g}, c.find? f = some g ↔ Stands history f g := find?_iff_stands h
  have hnone : ∀ {f}, c.find? f = none ↔ ∀ g, ¬ Stands history f g := by
    intro f
    simp only [Option.eq_none_iff_forall_ne_some, ne_eq, hstands]
  have hsound := sound_of_history h
  cases use with
  | bound handle replaced =>
      obtain ⟨rfl, -⟩ := huse
      exact fun g => hstands
  | unbound factory removed =>
      obtain ⟨rfl, -⟩ := huse
      exact fun g => hstands
  | emptied taken =>
      obtain ⟨rfl, -⟩ := huse
      refine ⟨List.nodup_iff_count_le_one.mpr fun g => hsound.keyed.count_handles.1, ?_⟩
      intro g
      rw [← hstands, ← Binds, ← hsound.keyed.count_handles.2, ← List.one_le_count_iff]
      have hle := hsound.keyed.count_handles (h := g)
      omega
  | released handle => trivial
  | current factory found =>
      obtain ⟨rfl, -⟩ := huse
      cases hfound : c.find? factory with
      | none =>
          refine ⟨?_, ?_⟩
          · intro g
            rw [← hstands, hfound]
            simp
          · intro failure hfailure
            exact ⟨(Except.error.inj hfailure).symm, hnone.mp hfound⟩
      | some g =>
          refine ⟨?_, ?_⟩
          · intro other
            rw [← hstands, hfound]
            simp
          · intro failure hfailure
            cases hfailure
  | hasBinding factory answer =>
      obtain ⟨rfl, -⟩ := huse
      show _ ↔ _
      simp only [Option.isSome_iff_exists, hstands]
  | isEmpty answer =>
      obtain ⟨rfl, -⟩ := huse
      show _ ↔ _
      simp only [hsound.isEmpty_iff, hnone]

end Context

/-! ## Clients -/

/-- The step may lead from one workspace to the other and end in `value`. -/
def Workspace.Runs {α : Type} (w : Workspace) (step : Demarcation.Step α) (value : α)
    (w' : Workspace) : Prop :=
  step.Reaches (@Workspace.Step noJobs Eq) w value w'

/-- The command leaves the context alone. -/
def Work.Command.Spares (cx : ContextId) (command : Work.Command) : Prop :=
  ∀ c f, command = .context c → ¬ c.Changes cx f

/-- Code that uses a context. -/
inductive Client (cx : ContextId) where
  | done
  | bind (handle : Handle) (next : Option Handle → Client cx)
  | unbind (factory : FactoryId) (next : Option Handle → Client cx)
  | unbindAll (release : Handle → Client cx) (next : Client cx)
  | current (factory : FactoryId) (next : Except Failure Handle → Client cx)
  | hasBinding (factory : FactoryId) (next : Bool → Client cx)
  | isEmpty (next : Bool → Client cx)
  /-- Anything else; what a client does may depend on more than the context. -/
  | elsewhere (command : Work.Command) (spares : command.Spares cx)
      (next : Work.Answer command → Client cx)

namespace Client

variable {cx : ContextId}

/-- What a client does. -/
def step : Client cx → Step Unit
  | .done => .done ()
  | .bind handle next => cx.bind handle >>= fun replaced => (next replaced).step
  | .unbind factory next => cx.unbind factory >>= fun removed => (next removed).step
  | .unbindAll release next =>
    cx.unbindAll (fun handle => (release handle).step) >>= fun _ => next.step
  | .current factory next => cx.current factory >>= fun found => (next found).step
  | .hasBinding factory next => cx.hasBinding factory >>= fun answer => (next answer).step
  | .isEmpty next => cx.isEmpty >>= fun answer => (next answer).step
  | .elsewhere command _ next => .perform command fun answer => (next answer).step

/-- Passing on each of the handles, one after the other. -/
def Each (run : Handle → Workspace → List Use → Workspace → Prop) :
    List Handle → Workspace → List Use → Workspace → Prop
  | [], w, history, w' => history = [] ∧ w' = w
  | handle :: handles, w, history, w' =>
    ∃ during u later, run handle w during u ∧ Each run handles u later w' ∧
      history = .released handle :: (during ++ later)

/-- Using the context once, and going on with what it answers. -/
def Once {α : Type} (call : Step α) (use : α → Use)
    (run : α → Workspace → List Use → Workspace → Prop) (w : Workspace) (history : List Use)
    (w' : Workspace) : Prop :=
  ∃ answer u later, w.Runs call answer u ∧ run answer u later w' ∧ history = use answer :: later

/-- The history of a run of the client.  A callback runs when the context has been
emptied, and the callbacks before it have run. -/
def Makes : Client cx → Workspace → List Use → Workspace → Prop
  | .done, w, history, w' => history = [] ∧ w' = w
  | .bind handle next, w, history, w' =>
    Once (cx.bind handle) (.bound handle) (fun replaced v later v' =>
      (next replaced).Makes v later v') w history w'
  | .unbind factory next, w, history, w' =>
    Once (cx.unbind factory) (.unbound factory) (fun removed v later v' =>
      (next removed).Makes v later v') w history w'
  | .unbindAll release next, w, history, w' =>
    ∃ during u later,
      Each (fun handle v during v' => (release handle).Makes v during v')
        (w.context cx).handles (w.set cx .empty) during u ∧ next.Makes u later w' ∧
      history = .emptied (w.context cx).handles :: (during ++ later)
  | .current factory next, w, history, w' =>
    Once (cx.current factory) (.current factory) (fun found v later v' =>
      (next found).Makes v later v') w history w'
  | .hasBinding factory next, w, history, w' =>
    Once (cx.hasBinding factory) (.hasBinding factory) (fun answer v later v' =>
      (next answer).Makes v later v') w history w'
  | .isEmpty next, w, history, w' =>
    Once cx.isEmpty .isEmpty (fun answer v later v' => (next answer).Makes v later v') w history w'
  | .elsewhere command _ next, w, history, w' =>
    ∃ answer u, @Workspace.Step noJobs Eq w (.did command answer) u ∧
      (next answer).Makes u history w'

end Client

section Runs

variable {α β : Type} {cx : ContextId} {w w' : Workspace} {release : Handle → Step Unit}

theorem Workspace.runs_done {a b : α} : w.Runs (.done a) b w' ↔ b = a ∧ w' = w :=
  Action.reaches_done

theorem Workspace.runs_bind_step {x : Demarcation.Step α} {f : α → Demarcation.Step β} {b : β} :
    w.Runs (x >>= f) b w' ↔ ∃ a u, w.Runs x a u ∧ u.Runs (f a) b w' :=
  Action.reaches_bind

theorem Workspace.runs_emit {event : Event} {u : Unit} :
    w.Runs (emit event) u w' ↔ w' = w := by
  simp [Workspace.Runs, emit, Workspace.Step]

namespace ContextId

open Workspace

theorem runs_bind {handle : Handle} {replaced : Option Handle} :
    w.Runs (cx.bind handle) replaced w' ↔
      replaced = (w.context cx).find? handle.factory ∧
        w' = w.set cx ((w.context cx).bind handle).2 := by
  rw [Runs, Action.Reaches]
  simp only [traces_bind, exists_eq_left]
  exact leads_bindDeeds

theorem runs_unbind {factory : FactoryId} {removed : Option Handle} :
    w.Runs (cx.unbind factory) removed w' ↔
      removed = (w.context cx).find? factory ∧
        w' = w.set cx ((w.context cx).unbind factory).2 := by
  rw [Runs, Action.Reaches]
  simp only [traces_unbind, exists_eq_left]
  exact leads_unbindDeeds

/-- Code that looks a handle up goes on with what is bound. -/
theorem runs_find?_bind {factory : FactoryId} {f : Option Handle → Demarcation.Step α} {a : α} :
    w.Runs (cx.find? factory >>= f) a w' ↔
      w.Runs (f ((w.context cx).find? factory)) a w' := by
  rw [runs_bind_step]
  constructor
  · rintro ⟨found, u, hfound, hrest⟩
    obtain ⟨answer, _, hstep, hdone⟩ := Action.reaches_perform.mp hfound
    obtain ⟨rfl, rfl⟩ := Action.reaches_done.mp hdone
    obtain ⟨rfl, rfl⟩ := Prod.mk.inj hstep
    exact hrest
  · intro hrest
    exact ⟨_, w, Action.reaches_perform.mpr ⟨_, _, rfl, Action.reaches_done.mpr ⟨rfl, rfl⟩⟩, hrest⟩

theorem current_eq (cx : ContextId) (factory : FactoryId) :
    cx.current factory = cx.find? factory >>= fun bound =>
      .done (bound.elim (.error (.noHandleBound factory)) .ok) := by
  simp only [current]
  congr 1
  funext bound
  cases bound <;> rfl

theorem runs_current {factory : FactoryId} {found : Except Failure Handle} :
    w.Runs (cx.current factory) found w' ↔
      found = ((w.context cx).find? factory).elim (.error (.noHandleBound factory)) .ok ∧
        w' = w := by
  rw [current_eq, runs_find?_bind, runs_done]

theorem runs_hasBinding {factory : FactoryId} {answer : Bool} :
    w.Runs (cx.hasBinding factory) answer w' ↔
      answer = ((w.context cx).find? factory).isSome ∧ w' = w := by
  rw [hasBinding, runs_find?_bind, Action.pure_eq_done, runs_done]

theorem runs_isEmpty {answer : Bool} :
    w.Runs cx.isEmpty answer w' ↔ answer = (w.context cx).isEmpty ∧ w' = w := by
  simp only [Runs, ContextId.isEmpty, Action.reaches_perform, Action.reaches_done, Workspace.Step,
    perform, Prod.mk.injEq]
  constructor
  · rintro ⟨_, _, ⟨rfl, rfl⟩, rfl, rfl⟩
    exact ⟨rfl, rfl⟩
  · rintro ⟨rfl, rfl⟩
    exact ⟨_, _, ⟨rfl, rfl⟩, rfl, rfl⟩

theorem unbindAll_eq (cx : ContextId) (release : Handle → Step Unit) :
    cx.unbindAll release = .perform (.context (.unbindAll cx)) fun table =>
      ((table.map fun table => emit (.unbindingAll cx table.size)).getD (.done ())) >>= fun _ =>
        releaseEach release ((table.map Table.values).getD []) := by
  simp only [unbindAll, Action.perform_bind, Action.done_bind]
  congr 1
  funext table
  cases table <;> rfl

theorem runs_unbindAll {u : Unit} :
    w.Runs (cx.unbindAll release) u w' ↔
      (w.set cx .empty).Runs (releaseEach release (w.context cx).handles) u w' := by
  have htells : ∀ {table : Option (Table FactoryId Handle)} {v v' : Workspace},
      v.Runs ((table.map fun table => emit (.unbindingAll cx table.size)).getD (.done ())) () v' ↔
        v' = v := by
    intro table v v'
    cases table with
    | none => exact runs_done.trans (and_iff_right rfl)
    | some table => exact runs_emit
  rw [unbindAll_eq, Runs, Action.reaches_perform]
  constructor
  · rintro ⟨table, v, hstep, hrest⟩
    obtain ⟨rfl, rfl⟩ := Prod.mk.inj hstep
    obtain ⟨_, v, htold, hrelease⟩ := runs_bind_step.mp hrest
    rw [htells.mp htold] at hrelease
    exact hrelease
  · intro h
    exact ⟨_, _, rfl, runs_bind_step.mpr ⟨(), _, htells.mpr rfl, h⟩⟩

end ContextId

end Runs

namespace Client

variable {cx : ContextId} {client : Client cx} {release : Handle → Client cx}
  {run : Handle → Workspace → List Use → Workspace → Prop} {handles : List Handle}
  {w w' : Workspace} {history : List Use}

theorem runs_releaseEach
    (ih : ∀ {h w w'}, w.Runs (release h).step () w' ↔
      ∃ history, (release h).Makes w history w') :
    w.Runs (ContextId.releaseEach (fun h => (release h).step) handles) () w' ↔
      ∃ history,
        Each (fun h v during v' => (release h).Makes v during v') handles w history w' := by
  induction handles generalizing w with
  | nil => simp [ContextId.releaseEach, Each, Workspace.runs_done]
  | cons h handles hrest =>
      simp only [ContextId.releaseEach, Workspace.runs_bind_step, ih, hrest, Each]
      constructor
      · rintro ⟨_, u, ⟨during, hduring⟩, later, hlater⟩
        exact ⟨_, during, u, later, hduring, hlater, rfl⟩
      · rintro ⟨_, during, u, later, hduring, hlater, rfl⟩
        exact ⟨(), u, ⟨during, hduring⟩, later, hlater⟩

theorem runs_once {α : Type} {call : Step α} {use : α → Use} {next : α → Client cx}
    (ih : ∀ {a w w'}, w.Runs (next a).step () w' ↔ ∃ history, (next a).Makes w history w') :
    w.Runs (call >>= fun a => (next a).step) () w' ↔
      ∃ history, Once call use (fun a v later v' => (next a).Makes v later v') w history w' := by
  simp only [Workspace.runs_bind_step, ih, Once]
  constructor
  · rintro ⟨a, u, hcall, later, hlater⟩
    exact ⟨_, a, u, later, hcall, hlater, rfl⟩
  · rintro ⟨_, a, u, later, hcall, hlater, rfl⟩
    exact ⟨a, u, hcall, later, hlater⟩

/-- A client has a history for each of its runs. -/
theorem runs_step_iff : w.Runs client.step () w' ↔ ∃ history, client.Makes w history w' := by
  induction client generalizing w w' with
  | done => simp [step, Makes, Workspace.runs_done]
  | bind handle next ih => exact runs_once (ih _)
  | unbind factory next ih => exact runs_once (ih _)
  | unbindAll release next ihrelease ihnext =>
      simp only [step, Workspace.runs_bind_step, ContextId.runs_unbindAll, ihnext, Makes,
        runs_releaseEach (ihrelease _)]
      constructor
      · rintro ⟨_, u, ⟨during, hduring⟩, later, hlater⟩
        exact ⟨_, during, u, later, hduring, hlater, rfl⟩
      · rintro ⟨_, during, u, later, hduring, hlater, rfl⟩
        exact ⟨(), u, ⟨during, hduring⟩, later, hlater⟩
  | current factory next ih => exact runs_once (ih _)
  | hasBinding factory next ih => exact runs_once (ih _)
  | isEmpty next ih => exact runs_once (ih _)
  | elsewhere command spares next ih =>
      rw [step, Workspace.Runs, Action.reaches_perform]
      constructor
      · rintro ⟨answer, u, hstep, hrest⟩
        obtain ⟨history, hmakes⟩ := (ih answer).mp hrest
        exact ⟨history, answer, u, hstep, hmakes⟩
      · rintro ⟨history, answer, u, hstep, hmakes⟩
        exact ⟨answer, u, hstep, (ih answer).mpr ⟨history, hmakes⟩⟩

theorem Once.follows {α : Type} {call : Step α} {use : α → Use}
    {run : α → Workspace → List Use → Workspace → Prop}
    (hcall : ∀ a u, w.Runs call a u → (w.context cx).Undergoes (use a) (u.context cx))
    (hrun : ∀ {a v later v'}, run a v later v' →
      Follows Context.Undergoes later (v.context cx) (v'.context cx))
    (h : Once call use run w history w') :
    Follows Context.Undergoes history (w.context cx) (w'.context cx) := by
  obtain ⟨a, u, later, huse, hlater, rfl⟩ := h
  exact ⟨_, hcall a u huse, hrun hlater⟩

theorem Each.follows
    (hrun : ∀ {h v during v'}, run h v during v' →
      Follows Context.Undergoes during (v.context cx) (v'.context cx))
    (h : Each run handles w history w') :
    Follows Context.Undergoes history (w.context cx) (w'.context cx) := by
  induction handles generalizing w history with
  | nil =>
      obtain ⟨rfl, rfl⟩ := h
      rfl
  | cons handle handles ih =>
      obtain ⟨during, u, later, hduring, hlater, rfl⟩ := h
      exact ⟨_, rfl, follows_append.mpr ⟨_, hrun hduring, ih hlater⟩⟩

/-- Each use makes of the context what it has to. -/
theorem Makes.follows (h : client.Makes w history w') :
    Follows Context.Undergoes history (w.context cx) (w'.context cx) := by
  induction client generalizing w w' history with
  | done =>
      obtain ⟨rfl, rfl⟩ := h
      rfl
  | bind handle next ih =>
      refine Once.follows ?_ (ih _) h
      intro replaced u hbind
      obtain ⟨rfl, rfl⟩ := ContextId.runs_bind.mp hbind
      exact ⟨rfl, Workspace.context_set_self w cx _⟩
  | unbind factory next ih =>
      refine Once.follows ?_ (ih _) h
      intro removed u hunbind
      obtain ⟨rfl, rfl⟩ := ContextId.runs_unbind.mp hunbind
      exact ⟨rfl, Workspace.context_set_self w cx _⟩
  | unbindAll release next ihrelease ihnext =>
      obtain ⟨during, u, later, hduring, hlater, rfl⟩ := h
      have hreleases := Each.follows (ihrelease _) hduring
      rw [Workspace.context_set_self] at hreleases
      exact ⟨_, ⟨rfl, rfl⟩, follows_append.mpr ⟨_, hreleases, ihnext hlater⟩⟩
  | current factory next ih =>
      refine Once.follows ?_ (ih _) h
      intro found u hfound
      obtain ⟨rfl, rfl⟩ := ContextId.runs_current.mp hfound
      exact ⟨rfl, rfl⟩
  | hasBinding factory next ih =>
      refine Once.follows ?_ (ih _) h
      intro answer u hanswer
      obtain ⟨rfl, rfl⟩ := ContextId.runs_hasBinding.mp hanswer
      exact ⟨rfl, rfl⟩
  | isEmpty next ih =>
      refine Once.follows ?_ (ih _) h
      intro answer u hanswer
      obtain ⟨rfl, rfl⟩ := ContextId.runs_isEmpty.mp hanswer
      exact ⟨rfl, rfl⟩
  | elsewhere command hspares next ih =>
      obtain ⟨answer, u, hstep, hlater⟩ := h
      have hsame : u.context cx = w.context cx := by
        rcases Workspace.step_cases hstep with ⟨-, rfl⟩ | ⟨c, _, hdeed, hperform⟩
        · rfl
        · cases hdeed
          have hcontext := Workspace.context_perform (w := w) fun f => hspares c f rfl
          rw [hperform] at hcontext
          exact hcontext
      rw [← hsame]
      exact ih answer hlater

theorem exists_each (hrun : ∀ h v, ∃ during v', run h v during v') (handles : List Handle)
    (w : Workspace) : ∃ history w', Each run handles w history w' := by
  induction handles generalizing w with
  | nil => exact ⟨[], w, rfl, rfl⟩
  | cons handle handles ih =>
      obtain ⟨during, u, hduring⟩ := hrun handle w
      obtain ⟨later, w', hlater⟩ := ih u
      exact ⟨_, w', during, u, later, hduring, hlater, rfl⟩

theorem exists_once {α : Type} {call : Step α} {use : α → Use}
    {run : α → Workspace → List Use → Workspace → Prop} (hcall : ∃ a u, w.Runs call a u)
    (hrun : ∀ a v, ∃ later v', run a v later v') :
    ∃ history w', Once call use run w history w' := by
  obtain ⟨a, u, hcall⟩ := hcall
  obtain ⟨later, w', hlater⟩ := hrun a u
  exact ⟨_, w', a, u, later, hcall, hlater, rfl⟩

/-- Whatever it is answered elsewhere, a client comes to its end. -/
theorem exists_makes (client : Client cx) (w : Workspace) :
    ∃ history w', client.Makes w history w' := by
  induction client generalizing w with
  | done => exact ⟨[], w, rfl, rfl⟩
  | bind handle next ih => exact exists_once ⟨_, _, ContextId.runs_bind.mpr ⟨rfl, rfl⟩⟩ ih
  | unbind factory next ih => exact exists_once ⟨_, _, ContextId.runs_unbind.mpr ⟨rfl, rfl⟩⟩ ih
  | unbindAll release next ihrelease ihnext =>
      obtain ⟨during, u, hduring⟩ := exists_each ihrelease (w.context cx).handles (w.set cx .empty)
      obtain ⟨later, w', hlater⟩ := ihnext u
      exact ⟨_, w', during, u, later, hduring, hlater, rfl⟩
  | current factory next ih => exact exists_once ⟨_, _, ContextId.runs_current.mpr ⟨rfl, rfl⟩⟩ ih
  | hasBinding factory next ih =>
      exact exists_once ⟨_, _, ContextId.runs_hasBinding.mpr ⟨rfl, rfl⟩⟩ ih
  | isEmpty next ih => exact exists_once ⟨_, _, ContextId.runs_isEmpty.mpr ⟨rfl, rfl⟩⟩ ih
  | elsewhere command hspares next ih =>
      have hanswered : ∃ answer u, @Workspace.Step noJobs Eq w (.did command answer) u := by
        cases command with
        | context c => exact ⟨_, _, rfl⟩
        | transactionActive => exact ⟨false, w, rfl⟩
        | close => exact ⟨(), w, rfl⟩
        | provides => exact ⟨false, w, rfl⟩
        | emit => exact ⟨(), w, rfl⟩
      obtain ⟨answer, u, hstep⟩ := hanswered
      obtain ⟨history, w', hmakes⟩ := ih answer u
      exact ⟨history, w', answer, u, hstep, hmakes⟩

theorem Once.released {α : Type} {call : Step α} {use : α → Use}
    {run : α → Workspace → List Use → Workspace → Prop}
    (huse : ∀ a, (use a).handlesTaken = [] ∧ (use a).handlesReleased = [])
    (hrun : ∀ {a v later v'}, run a v later v' →
      gathered Use.handlesTaken later = gathered Use.handlesReleased later)
    (h : Once call use run w history w') :
    gathered Use.handlesTaken history = gathered Use.handlesReleased history := by
  obtain ⟨a, u, later, -, hlater, rfl⟩ := h
  rw [gathered_cons, gathered_cons, (huse a).1, (huse a).2, hrun hlater]

theorem Each.released
    (hrun : ∀ {h v during v'}, run h v during v' →
      gathered Use.handlesTaken during = gathered Use.handlesReleased during)
    (h : Each run handles w history w') :
    handles + gathered Use.handlesTaken history = gathered Use.handlesReleased history := by
  induction handles generalizing w history with
  | nil =>
      obtain ⟨rfl, rfl⟩ := h
      rfl
  | cons handle handles ih =>
      obtain ⟨during, u, later, hduring, hlater, rfl⟩ := h
      have hcons : ((handle :: handles : List Handle) : Multiset Handle) = {handle} + handles := rfl
      simp only [gathered_cons, gathered_append, hrun hduring, ← ih hlater, hcons,
        Use.handlesTaken, Use.handlesReleased, Multiset.coe_nil, Multiset.coe_singleton, zero_add]
      rw [add_assoc, add_left_comm (handles : Multiset Handle)]

/-- What was taken has been released when the client is done. -/
theorem Makes.released (h : client.Makes w history w') :
    gathered Use.handlesTaken history = gathered Use.handlesReleased history := by
  induction client generalizing w w' history with
  | done =>
      obtain ⟨rfl, rfl⟩ := h
      rfl
  | bind handle next ih => exact Once.released (fun _ => ⟨rfl, rfl⟩) (ih _) h
  | unbind factory next ih => exact Once.released (fun _ => ⟨rfl, rfl⟩) (ih _) h
  | unbindAll release next ihrelease ihnext =>
      obtain ⟨during, u, later, hduring, hlater, rfl⟩ := h
      have hreleases := Each.released (ihrelease _) hduring
      simp only [gathered_cons, gathered_append, ← hreleases, ihnext hlater, Use.handlesTaken,
        Use.handlesReleased, Multiset.coe_nil, zero_add, add_assoc]
  | current factory next ih => exact Once.released (fun _ => ⟨rfl, rfl⟩) (ih _) h
  | hasBinding factory next ih => exact Once.released (fun _ => ⟨rfl, rfl⟩) (ih _) h
  | isEmpty next ih => exact Once.released (fun _ => ⟨rfl, rfl⟩) (ih _) h
  | elsewhere command hspares next ih =>
      obtain ⟨answer, u, -, hlater⟩ := h
      exact ih answer hlater

/-- A client that binds a handle, and binds it again when it is released. -/
def rebinder : Client ⟨0⟩ :=
  .bind ⟨0, ⟨0⟩⟩ fun _ => .unbindAll (fun handle => .bind handle fun _ => .done) .done

/-- What it does to its context. -/
def rebinderHistory : List Use := [
  .bound ⟨0, ⟨0⟩⟩ none,
  .emptied [⟨0, ⟨0⟩⟩],
  .released ⟨0, ⟨0⟩⟩,
  .bound ⟨0, ⟨0⟩⟩ none]

theorem rebinder_makes : ∃ w', rebinder.Makes {} rebinderHistory w' := by
  have hbinds : ∀ {v : Workspace}, v.context ⟨0⟩ = .empty →
      (.bind ⟨0, ⟨0⟩⟩ fun _ => .done : Client ⟨0⟩).Makes v [.bound ⟨0, ⟨0⟩⟩ none]
        (v.set ⟨0⟩ ((v.context ⟨0⟩).bind ⟨0, ⟨0⟩⟩).2) := by
    intro v hv
    refine ⟨none, _, [], ContextId.runs_bind.mpr ⟨?_, rfl⟩, ⟨rfl, rfl⟩, rfl⟩
    rw [hv]
    rfl
  exact ⟨_, none, _, _, ContextId.runs_bind.mpr ⟨rfl, rfl⟩,
    ⟨_, _, [], ⟨_, _, [], hbinds rfl, ⟨rfl, rfl⟩, rfl⟩, ⟨rfl, rfl⟩, rfl⟩, rfl⟩

end Client

end Demarcation
