/-
Connecting several units at once.

Whatever happens in a process while its units are connected, every move keeps a few facts
(`Startup.Sound`).  A name that has been registered by one errand is not registered by
another one.  The pool that an errand has opened is its own: a factory is new when its
pool is opened, so no errand closes the pool of another one unless it was sent to close
it.

An errand that has returned has no turn any more, so what its last turn has made of the
tables and the pools is told apart from what the others do later.
-/
import Demarcation.Proofs.Errands

namespace Demarcation

/-- What comes to be true in the course of a run does so by some step. -/
theorem Follows.exists_change {σ δ : Type} {step : σ → δ → σ → Prop} {P : σ → Prop}
    {ds : List δ} {s t : σ} (h : Follows step ds s t) (hs : ¬ P s) (ht : P t) :
    ∃ earlier d later u v, ds = earlier ++ d :: later ∧ Follows step earlier s u ∧
      step u d v ∧ Follows step later v t ∧ ¬ P u ∧ P v := by
  induction ds generalizing s with
  | nil =>
      rw [follows_nil.mp h] at ht
      exact absurd ht hs
  | cons d ds ih =>
      obtain ⟨v, hstep, hrest⟩ := h
      by_cases hv : P v
      · exact ⟨[], d, ds, s, v, rfl, rfl, hstep, hrest, hs, hv⟩
      · obtain ⟨earlier, d', later, u, w, rfl, hearlier, hchange⟩ := ih hrest hv
        exact ⟨d :: earlier, d', later, u, w, rfl, ⟨v, hstep, hearlier⟩, hchange⟩

/-! ## What every move keeps -/

namespace Startup

variable {s t : Startup} {i j : ℕ} {a b : Started} {factory : FactoryId}

theorem errands_put_eq_some {premises : Premises} :
    (s.put i a premises).errands j = some b ↔
      (j = i ∧ a = b) ∨ (j ≠ i ∧ s.errands j = some b) := by
  by_cases hsame : j = i
  · rw [hsame, errands_put_self]
    simp
  · rw [errands_put_of_ne s hsame]
    simp [hsame]

/-- Somebody closes the pool of the factory, or has closed it. -/
def Closes (s : Startup) (factory : FactoryId) : Prop :=
  ∃ i unit progress, s.errands i = some ⟨.close unit, progress⟩ ∧ unit.factory = factory

/-- What is true of a process at any time. -/
structure Sound (s : Startup) : Prop where
  phase : ∀ {i e progress}, s.errands i = some ⟨e, progress⟩ → e.Phase progress
  /-- What has been registered is there. -/
  entered : ∀ {i a name entry}, s.errands i = some a → a.Registered name entry →
    s.premises.tables.registry.units.find? name = some entry
  /-- A name is registered once. -/
  once : ∀ {i j a b name f g}, s.errands i = some a → a.Registered name f →
    s.errands j = some b → b.Registered name g → i = j
  /-- A pool has been opened for its holder. -/
  held : ∀ {i a factory}, s.errands i = some a → a.Holds factory →
    s.premises.pools factory ≠ .absent
  /-- A pool has one holder. -/
  apart : ∀ {i j a b factory}, s.errands i = some a → a.Holds factory →
    s.errands j = some b → b.Holds factory → i = j
  /-- What is closed has been there. -/
  closable : ∀ {factory}, s.Closes factory → s.premises.pools factory ≠ .absent
  /-- A connected unit has the name of its settings, and its pool is left alone. -/
  intact : ∀ {i settings unit},
    s.errands i = some ⟨.connect settings, some (.done (.ok unit))⟩ →
      unit.name = settings.name ∧
        (s.premises.pools unit.factory = .opened ∨ s.Closes unit.factory)

theorem sound_of_none (h : ∀ i, s.errands i = none) : s.Sound := by
  have hnone : ∀ {i a}, s.errands i ≠ some a := by
    intro i a hi
    rw [h i] at hi
    cases hi
  constructor
  case closable =>
    rintro factory ⟨i, unit, x, hi, -⟩
    exact absurd hi hnone
  all_goals
    intros
    exact absurd ‹s.errands _ = some _› hnone

/-- An errand stays the same while it goes on. -/
theorem Moves.errand (h : s.Moves i t) {e : Errand} {x : e.Progress}
    (hj : s.errands j = some ⟨e, x⟩) : ∃ y, t.errands j = some ⟨e, y⟩ := by
  by_cases hsame : j = i
  · subst hsame
    cases h with
    | begins hfree =>
        rw [hfree] at hj
        cases hj
    | hears hwaits | dropped hwaits =>
        cases hwaits.symm.trans hj
        exact ⟨_, errands_put_self ..⟩
  · refine ⟨x, ?_⟩
    cases h <;> rw [errands_put_of_ne s hsame, hj]

theorem Moves.closes (h : s.Moves i t) (hcloses : s.Closes factory) : t.Closes factory := by
  obtain ⟨j, unit, x, hj, hfactory⟩ := hcloses
  obtain ⟨y, hy⟩ := h.errand hj
  exact ⟨j, unit, y, hy, hfactory⟩

/-- A pool is open when connecting returns a unit.  Later on it is not closed by those who
undo what they have begun, since each of them holds another one. -/
theorem Moves.intact (hs : s.Sound) (h : s.Moves i t) {settings : UnitSettings}
    {unit : ConnectedUnit}
    (hj : t.errands j = some ⟨.connect settings, some (.done (.ok unit))⟩) :
    unit.name = settings.name ∧
      (t.premises.pools unit.factory = .opened ∨ t.Closes unit.factory) := by
  have hmoves := h
  obtain ⟨e, before, progress, premises, hbefore, -, hturn, rfl⟩ := h.turn fun _ _ => hs.phase
  rcases errands_put_eq_some.mp hj with ⟨-, hnew⟩ | ⟨hne, hj⟩
  · cases hnew
    exact ⟨hturn.connected.1, Or.inl (hturn.holds .connected).2⟩
  · obtain ⟨hunit, hopened⟩ := hs.intact hj
    refine ⟨hunit, ?_⟩
    rcases hopened with hopened | hcloses
    · rcases hturn.opened hopened with hstill | ⟨x, rfl, hholds⟩ | ⟨closed, rfl, hsame⟩
      · exact Or.inl hstill
      · exact absurd (hs.apart hj .connected hbefore hholds) hne
      · exact Or.inr ⟨i, closed, progress, errands_put_self .., hsame⟩
    · exact Or.inr (hmoves.closes hcloses)

theorem Moves.sound (hs : s.Sound) (h : s.Moves i t) : t.Sound := by
  have hmoves := h
  obtain ⟨e, before, progress, premises, hbefore, hpossible, hturn, rfl⟩ :=
    h.turn fun _ _ => hs.phase
  -- what the errand has just registered is not what another one has registered
  have hname : ∀ {j b name f g}, s.errands j = some b → b.Registered name f →
      ¬ Started.Registered ⟨e, progress⟩ name g := by
    intro j b name f g hj hb hnew
    have hfound := hs.entered hj hb
    rw [(hturn.registered hnew).1] at hfound
    cases hfound
  -- and so it is with the pool that it has just come to hold
  have hpool : ∀ {j b f}, s.errands j = some b → b.Holds f → ¬ Started.Holds ⟨e, progress⟩ f :=
    fun hj hb hnew => hs.held hj hb (hturn.holds hnew).1
  constructor
  case phase =>
    intro j e' x hj
    rcases errands_put_eq_some.mp hj with ⟨-, hnew⟩ | ⟨-, hj⟩
    · cases hnew
      exact hturn.phase
    · exact hs.phase hj
  case entered =>
    intro j a name f hj ha
    rcases errands_put_eq_some.mp hj with ⟨-, rfl⟩ | ⟨-, hj⟩
    · exact (hturn.registered ha).2
    · exact hturn.find? (hs.entered hj ha)
  case once =>
    intro j k a b name f g hj ha hk hb
    rcases errands_put_eq_some.mp hj with ⟨rfl, rfl⟩ | ⟨-, hold⟩ <;>
      rcases errands_put_eq_some.mp hk with ⟨rfl, rfl⟩ | ⟨-, hold'⟩
    · rfl
    · exact absurd ha (hname hold' hb)
    · exact absurd hb (hname hold ha)
    · exact hs.once hold ha hold' hb
  case held =>
    intro j a f hj ha
    rcases errands_put_eq_some.mp hj with ⟨-, rfl⟩ | ⟨-, hj⟩
    · rw [show (s.put i _ premises).premises = premises from rfl, (hturn.holds ha).2]
      nofun
    · exact hturn.ne_absent (hs.held hj ha)
  case apart =>
    intro j k a b f hj ha hk hb
    rcases errands_put_eq_some.mp hj with ⟨rfl, rfl⟩ | ⟨-, hold⟩ <;>
      rcases errands_put_eq_some.mp hk with ⟨rfl, rfl⟩ | ⟨-, hold'⟩
    · rfl
    · exact absurd ha (hpool hold' hb)
    · exact absurd hb (hpool hold ha)
    · exact hs.apart hold ha hold' hb
  case closable =>
    rintro f ⟨j, unit, x, hj, rfl⟩
    refine hturn.ne_absent ?_
    rcases errands_put_eq_some.mp hj with ⟨-, hnew⟩ | ⟨-, hj⟩
    · cases hnew
      cases before with
      | none => exact hpossible rfl
      | some y => exact hs.closable ⟨i, unit, y, hbefore, rfl⟩
    · exact hs.closable ⟨j, unit, x, hj, rfl⟩
  case intact => exact hmoves.intact hs

/-! ## From one moment to a later one -/

variable {schedule : List ℕ} {settings : UnitSettings}

theorem sound_of_follows (hs : s.Sound) (h : Follows Moves schedule s t) : t.Sound :=
  h.keeps (P := Sound) (fun _ _ _ _ hmoves hu => hmoves.sound hu) hs

theorem errand_of_follows {e : Errand} {x : e.Progress} (hi : s.errands i = some ⟨e, x⟩)
    (h : Follows Moves schedule s t) : ∃ y, t.errands i = some ⟨e, y⟩ := by
  refine h.keeps (P := fun u => ∃ y, u.errands i = some ⟨e, y⟩) ?_ ⟨x, hi⟩
  rintro _ - u v hmoves ⟨y, hy⟩
  exact hmoves.errand hy

/-- An errand that is over has no turn any more. -/
theorem Moves.not_over (h : s.Moves i t) (hi : s.errands i = some a) : ¬ a.Over := by
  intro hover
  cases h with
  | begins hfree =>
      rw [hfree] at hi
      cases hi
  | hears hwaits | dropped hwaits =>
      cases hwaits.symm.trans hi
      cases hover

theorem over_of_follows (hover : a.Over) (hi : s.errands i = some a)
    (h : Follows Moves schedule s t) : i ∉ schedule ∧ t.errands i = some a := by
  induction schedule generalizing s with
  | nil =>
      rw [follows_nil.mp h]
      exact ⟨List.not_mem_nil, hi⟩
  | cons j schedule ih =>
      obtain ⟨u, hmoves, hrest⟩ := h
      have hne : i ≠ j := by
        rintro rfl
        exact hmoves.not_over hi hover
      have hu : u.errands i = some a := by
        cases hmoves <;> rw [errands_put_of_ne s hne, hi]
      obtain ⟨hnot, hsame⟩ := ih hu hrest
      exact ⟨List.not_mem_cons_of_ne_of_not_mem hne hnot, hsame⟩

/-- Connecting has failed in errand `i`, and the pool that it has opened is closed before
the failure is returned. -/
inductive Undoes (s : Startup) (i : ℕ) (settings : UnitSettings) (factory : FactoryId) : Prop where
  | undoing {failure : Failure}
      (waits : s.errands i = some ⟨.connect settings, some (Errand.undoing factory failure)⟩)
  | undone {failure : Failure}
      (failed : s.errands i = some ⟨.connect settings, some (.done (.error failure))⟩)
      (closed : s.premises.pools factory = .closed)
  | dropped (dropped : s.errands i = some ⟨.connect settings, none⟩)

theorem Moves.undoes (hs : s.Sound) (h : s.Moves j t) (hundoes : s.Undoes i settings factory) :
    t.Undoes i settings factory := by
  obtain ⟨e, before, progress, premises, hbefore, -, hturn, rfl⟩ := h.turn fun _ _ => hs.phase
  by_cases hsame : i = j
  · subst hsame
    cases hundoes with
    | undoing hwaits =>
        have hheld := hs.held hwaits .undoing
        rw [hwaits] at hbefore
        cases before with
        | none => cases hbefore
        | some x =>
            cases hbefore
            rcases hturn.of_undoing with rfl | ⟨failure, rfl, rfl⟩
            · exact .dropped (errands_put_self ..)
            · refine .undone (errands_put_self ..) (Premises.pools_closing_self.trans ?_)
              cases hpool : s.premises.pools factory with
              | absent => exact absurd hpool hheld
              | opened | closed => rfl
    | undone hfailed => exact absurd .returned (h.not_over hfailed)
    | dropped hdropped => exact absurd .dropped (h.not_over hdropped)
  · have hother : ∀ {x}, s.errands i = some x →
        (s.put j ⟨e, progress⟩ premises).errands i = some x :=
      fun hx => (errands_put_of_ne s hsame ..).trans hx
    cases hundoes with
    | undoing hwaits => exact .undoing (hother hwaits)
    | undone hfailed hclosed =>
        refine .undone (hother hfailed) ?_
        rcases hturn.present (ne_of_eq_of_ne hclosed nofun) with hstill | hclosed'
        · exact hstill.trans hclosed
        · exact hclosed'
    | dropped hdropped => exact .dropped (hother hdropped)

theorem undoes_of_follows (hs : s.Sound) (hundoes : s.Undoes i settings factory)
    (h : Follows Moves schedule s t) : t.Undoes i settings factory := by
  refine (h.keeps (P := fun u => u.Sound ∧ u.Undoes i settings factory) ?_ ⟨hs, hundoes⟩).2
  rintro _ - u v hmoves ⟨hu, hundoes⟩
  exact ⟨hmoves.sound hu, hmoves.undoes hu hundoes⟩

/-- Errand `i` had a turn in the run, from the one state to the other. -/
def Took (start : Startup) (schedule : List ℕ) (site : Startup) (i : ℕ) (u v : Startup) : Prop :=
  ∃ earlier later, schedule = earlier ++ i :: later ∧ Follows Moves earlier start u ∧
    u.Moves i v ∧ Follows Moves later v site

/-- The name of the unit stands for its factory, its shared handle is the one that is
looked up, and its pool is open until somebody closes it. -/
structure Stands (s : Startup) (unit : ConnectedUnit) : Prop where
  resolved : s.premises.tables.registry.resolve unit.name = .ok unit.factory
  shared : s.premises.tables.registry.sharedHandle unit.name = .ok unit.shared
  pool : s.premises.pools unit.factory = .opened ∨ s.Closes unit.factory

/-- A move that adds the unit: its name, which was free, stands for its factory, its shared
handle is a new one, and nothing else is changed in the tables.  The pool is open, and
nobody closes it yet. -/
structure Adds (s : Startup) (unit : ConnectedUnit) (t : Startup) : Prop where
  free : s.premises.tables.registry.units.find? unit.name = none
  shared : unit.shared = s.premises.tables.newShared unit.name unit.factory
  tables : t.premises.tables = s.premises.tables.registering unit.name unit.factory
  opened : t.premises.pools unit.factory = .opened
  unclosed : ¬ t.Closes unit.factory

variable {start site u v : Startup} {failure : Failure} {unit : ConnectedUnit}

/-- Whoever connects a unit is not the one who closes it. -/
theorem closes_of_put {x : (Errand.connect settings).Progress} {premises : Premises}
    (h : (s.put i ⟨.connect settings, x⟩ premises).Closes factory) : s.Closes factory := by
  obtain ⟨j, unit, y, hj, hfactory⟩ := h
  rcases errands_put_eq_some.mp hj with ⟨-, hnew⟩ | ⟨-, hold⟩
  · cases hnew
  · exact ⟨j, unit, y, hold, hfactory⟩

theorem Sound.stands (hs : s.Sound)
    (hi : s.errands i = some ⟨.connect settings, some (.done (.ok unit))⟩) : s.Stands unit := by
  have hfound := hs.entered hi .connected
  obtain ⟨hunit, hpool⟩ := hs.intact hi
  rw [← hunit] at hfound
  refine ⟨?_, ?_, hpool⟩
  · rw [Registry.resolve, hfound]
  · rw [Registry.sharedHandle, hfound]

theorem Took.turn (hstart : start.Sound) (h : Took start schedule site i u v) {e : Errand}
    {x : e.Progress} (hi : site.errands i = some ⟨e, x⟩) :
    ∃ before progress, e.Turn before u.premises progress v.premises ∧ v.Sound ∧
      v.errands i = some ⟨e, progress⟩ ∧ ∃ later, Follows Moves later v site := by
  obtain ⟨earlier, later, -, hearlier, hmoves, hlater⟩ := h
  have hu := sound_of_follows hstart hearlier
  have hv := hmoves.sound hu
  obtain ⟨e', before, progress, premises, -, -, hturn, rfl⟩ := hmoves.turn fun _ _ => hu.phase
  have hput := errands_put_self u i ⟨e', progress⟩ premises
  obtain ⟨y, hy⟩ := errand_of_follows hput hlater
  cases hy.symm.trans hi
  exact ⟨before, progress, hturn, hv, hput, later, hlater⟩

/-- As long as connecting has not returned a unit, the tables are left alone. -/
theorem Took.tables_eq (hstart : start.Sound) (h : Took start schedule site i u v)
    {x : (Errand.connect settings).Progress} (hi : site.errands i = some ⟨.connect settings, x⟩)
    (hx : ∀ unit, x ≠ some (.done (.ok unit))) : v.premises.tables = u.premises.tables := by
  obtain ⟨before, progress, hturn, -, hput, later, hlater⟩ := h.turn hstart hi
  rcases hturn.tables_of_connect with hsame | ⟨unit, rfl⟩
  · exact hsame
  · have hdone := (over_of_follows .returned hput hlater).2
    cases hdone.symm.trans hi
    exact absurd rfl (hx unit)

theorem Took.tables_eq_of_later {u' v' : Startup} {later : List ℕ} (hstart : start.Sound)
    (h : Took start schedule u i u' v') (hmoves : u.Moves i v) (hlater : Follows Moves later v site)
    {x : (Errand.connect settings).Progress} (hi : site.errands i = some ⟨.connect settings, x⟩) :
    v'.premises.tables = u'.premises.tables := by
  obtain ⟨first, between, -, hfirst, hmoves', hbetween⟩ := h
  have htook : Took start (first ++ i :: (between ++ i :: later)) site i u' v' :=
    ⟨first, _, rfl, hfirst, hmoves', follows_append.mpr ⟨u, hbetween, v, hmoves, hlater⟩⟩
  obtain ⟨_, _, hturn, -, hput, -⟩ := htook.turn hstart hi
  rcases hturn.tables_of_connect with hsame | ⟨unit, rfl⟩
  · exact hsame
  · exact absurd .returned (hmoves.not_over (over_of_follows .returned hput hbetween).2)

/-- A pool that has been opened is closed before a failure is returned. -/
theorem Took.closed (hstart : start.Sound) (h : Took start schedule site i u v)
    (hi : site.errands i = some ⟨.connect settings, some (.done (.error failure))⟩)
    (habsent : u.premises.pools factory = .absent)
    (hpresent : v.premises.pools factory ≠ .absent) : site.premises.pools factory = .closed := by
  obtain ⟨before, progress, hturn, hv, hput, later, hlater⟩ := h.turn hstart hi
  rcases hturn.pools_of_connect habsent hpresent with ⟨unit, rfl⟩ | ⟨failure', rfl⟩
  · have hdone := (over_of_follows .returned hput hlater).2
    cases hdone.symm.trans hi
  · cases undoes_of_follows hv (.undoing hput) hlater with
    | undoing hwaits =>
        rw [Errand.undoing_eq] at hwaits
        cases hwaits.symm.trans hi
    | undone _ hclosed => exact hclosed
    | dropped hdropped => cases hdropped.symm.trans hi

/-- When connecting returns a unit, it adds the unit in the same turn. -/
theorem exists_adds (hnone : ∀ i, start.errands i = none)
    (hrun : Follows Moves schedule start site)
    (hi : site.errands i = some ⟨.connect settings, some (.done (.ok unit))⟩) :
    ∃ earlier later u v, schedule = earlier ++ i :: later ∧ Follows Moves earlier start u ∧
      u.Moves i v ∧ Follows Moves later v site ∧ i ∉ later ∧ u.Adds unit v := by
  have hbefore : start.errands i ≠ some ⟨.connect settings, some (.done (.ok unit))⟩ := by
    rw [hnone i]
    nofun
  obtain ⟨earlier, j, later, u, v, rfl, hearlier, hmoves, hlater, hu, hv⟩ :=
    hrun.exists_change
      (P := fun w => w.errands i = some ⟨.connect settings, some (.done (.ok unit))⟩) hbefore hi
  have hsound := sound_of_follows (sound_of_none hnone) hearlier
  have hturned := hmoves
  obtain ⟨e, before, progress, premises, -, -, hturn, rfl⟩ := hmoves.turn fun _ _ => hsound.phase
  rcases errands_put_eq_some.mp hv with ⟨rfl, hnew⟩ | ⟨-, hold⟩
  · cases hnew
    obtain ⟨hunit, hregisters⟩ := hturn.connected
    obtain ⟨hfree, hshared, htables⟩ := Setup.Tables.eq_of_made hregisters
    obtain ⟨habsent, hopened⟩ := hturn.holds .connected
    rw [← hunit] at hfree hshared htables
    refine ⟨earlier, later, u, _, rfl, hearlier, hturned, hlater,
      (over_of_follows .returned hv hlater).1, hfree, hshared, htables, hopened, ?_⟩
    intro hcloses
    exact hsound.closable (closes_of_put hcloses) habsent
  · exact absurd hold hu

/-- Whoever connects units, registers factories and closes units, and in whatever order
they go on and are dropped: one errand at most registers a name; connecting that returns a
failure has left the tables alone, and has closed the pool if it has opened one; and
connecting that returns a unit, which has the name of its settings, has added it in its last
turn, and has changed nothing before.  From then on the name stands for the factory of this
unit, its shared handle is looked up under it, and its pool is open until somebody closes
it. -/
theorem connects_stand (hnone : ∀ i, start.errands i = none)
    (hrun : Follows Moves schedule start site) :
    (∀ i j a b name f g, site.errands i = some a → a.Registered name f →
      site.errands j = some b → b.Registered name g → i = j) ∧
    (∀ i settings failure,
      site.errands i = some ⟨.connect settings, some (.done (.error failure))⟩ →
      ∀ u v, Took start schedule site i u v → v.premises.tables = u.premises.tables ∧
        ∀ factory, u.premises.pools factory = .absent → v.premises.pools factory ≠ .absent →
          site.premises.pools factory = .closed) ∧
    ∀ i settings unit, site.errands i = some ⟨.connect settings, some (.done (.ok unit))⟩ →
      unit.name = settings.name ∧
      (∃ earlier later u v, schedule = earlier ++ i :: later ∧ Follows Moves earlier start u ∧
        u.Moves i v ∧ Follows Moves later v site ∧ i ∉ later ∧ u.Adds unit v ∧
        ∀ u' v', Took start earlier u i u' v' → v'.premises.tables = u'.premises.tables) ∧
      ∀ more after, Follows Moves more site after → after.Stands unit := by
  have hstart := sound_of_none hnone
  have hsite := sound_of_follows hstart hrun
  refine ⟨?once, ?failed, ?connected⟩
  case once =>
    intro i j a b name f g hi ha hj hb
    exact hsite.once hi ha hj hb
  case failed =>
    intro i settings failure hi u v htook
    exact ⟨htook.tables_eq hstart hi nofun, fun _ => htook.closed hstart hi⟩
  case connected =>
    intro i settings unit hi
    refine ⟨(hsite.intact hi).1, ?_, ?_⟩
    · obtain ⟨earlier, later, u, v, hsplit, hearlier, hmoves, hlater, hlast, hadds⟩ :=
        exists_adds hnone hrun hi
      refine ⟨earlier, later, u, v, hsplit, hearlier, hmoves, hlater, hlast, hadds, ?_⟩
      intro u' v' htook
      exact htook.tables_eq_of_later hstart hmoves hlater hi
    · intro more after hmore
      exact (sound_of_follows hsite hmore).stands (over_of_follows .returned hi hmore).2

/-- Two units of the same name are connected.  Both ask for a pool before the name is
taken; the first one gets it, and the pool of the second one is closed. -/
theorem connects_stand_racing :
    ∃ (start site : Startup) (unit : ConnectedUnit), (∀ i, start.errands i = none) ∧
      Follows Moves [0, 1, 0, 1, 1] start site ∧
      site.errands 0 = some ⟨.connect {}, some (.done (.ok unit))⟩ ∧
      site.errands 1 =
        some ⟨.connect {}, some (.done (.error (.duplicateUnit defaultUnitName)))⟩ ∧
      site.Stands unit ∧ site.premises.pools ⟨1⟩ = .closed := by
  let fresh : Premises := ⟨{}, fun _ => .absent⟩
  let taken : Setup.Tables := fresh.tables.registering defaultUnitName ⟨0⟩
  let won : Premises := { fresh.withPool ⟨0⟩ .opened with tables := taken }
  let unit := Errand.unit {} ⟨0⟩ ⟨⟨0⟩, defaultUnitName, ⟨0⟩⟩
  let failure : Failure := .duplicateUnit defaultUnitName
  let asking : Started := ⟨.connect {}, some (ConnectedUnit.connect {})⟩
  let start : Startup := { premises := fresh }
  let begun := start.put 0 asking fresh
  let asked := begun.put 1 asking fresh
  let first := asked.put 0 ⟨.connect {}, some (.done (.ok unit))⟩ won
  let second := first.put 1 ⟨.connect {}, some (Errand.undoing ⟨1⟩ failure)⟩
    (won.withPool ⟨1⟩ .opened)
  let site := second.put 1 ⟨.connect {}, some (.done (.error failure))⟩
    ((won.withPool ⟨1⟩ .opened).closing ⟨1⟩)
  have hasks : (Errand.connect {}).Turn none fresh asking.progress fresh := .asks
  have hmade : (Errand.connect {}).Turn (some asking.progress) fresh
      (some (.done (.ok unit))) won :=
    .made rfl (Setup.Tables.registers_iff.mpr (Or.inl ⟨rfl, rfl, rfl⟩))
  have hrefused : (Errand.connect {}).Turn (some asking.progress) won
      (some (Errand.undoing ⟨1⟩ failure)) (won.withPool ⟨1⟩ .opened) :=
    .refused rfl (Setup.Tables.registers_iff.mpr (Or.inr ⟨nofun, rfl, rfl⟩))
  have hbegun : start.Moves 0 begun := moves_of_turn hasks rfl fun _ => trivial
  have hasked : begun.Moves 1 asked := moves_of_turn hasks rfl fun _ => trivial
  have hfirst : asked.Moves 0 first := moves_of_turn hmade rfl nofun
  have hsecond : first.Moves 1 second := moves_of_turn hrefused rfl nofun
  have hlast : second.Moves 1 site := moves_of_turn .undone rfl nofun
  have hrun : Follows Moves [0, 1, 0, 1, 1] start site :=
    ⟨begun, hbegun, asked, hasked, first, hfirst, second, hsecond, site, hlast, rfl⟩
  obtain ⟨-, hfailed, hconnected⟩ := connects_stand (fun _ => rfl) hrun
  have htook : Took start [0, 1, 0, 1, 1] site 1 first second :=
    ⟨[0, 1, 0], [1], rfl, ⟨begun, hbegun, asked, hasked, first, hfirst, rfl⟩, hsecond,
      site, hlast, rfl⟩
  refine ⟨start, site, unit, fun _ => rfl, hrun, rfl, rfl, ?_, ?_⟩
  · exact (hconnected 0 {} unit rfl).2.2 [] site rfl
  · exact (hfailed 1 {} failure rfl first second htook).2 ⟨1⟩ rfl nofun

end Startup

end Demarcation
