/-
Declaring methods in a process.

The calls that declare methods share the table of declarations.  Declaring never waits, as
registering does not: nobody comes between the look at the table and its change, so the
calls of several parts come one after the other (`Setup.Tables.Declares`).

A call adds one declaration or leaves the tables alone (`declares_iff`), and all that
counts for it is whether its own method has a declaration (`Declares.replay`).  So calls
for distinct methods may change places, and every method is found as before.  The order of
the entries is another one then, but nobody looks at it: the tables are `Alike`.
-/
import Demarcation.Proofs.Enrolment

namespace Demarcation

/-! ## What a call declares -/

namespace MethodDeclaration

/-- There is a specification on the definition and one on the handler. -/
def Doubled (declaration : MethodDeclaration) : Prop :=
  declaration.definition ≠ none ∧ declaration.handler ≠ none

/-- There is no specification. -/
def Blank (declaration : MethodDeclaration) : Prop :=
  declaration.definition = none ∧ declaration.handler = none

/-- There is one specification, and it is this one. -/
def Offers (declaration : MethodDeclaration) (spec : WorkSpec) : Prop :=
  (declaration.definition = some spec ∧ declaration.handler = none) ∨
    (declaration.definition = none ∧ declaration.handler = some spec)

variable {declaration : MethodDeclaration} {spec : WorkSpec}

theorem spec?_eq_some_iff : declaration.spec? = .ok (some spec) ↔ declaration.Offers spec := by
  obtain ⟨method, _ | definition, _ | handler⟩ := declaration <;> simp [spec?, Offers]

theorem Offers.unique {other : WorkSpec} (h : declaration.Offers spec)
    (hother : declaration.Offers other) : spec = other := by
  rw [← spec?_eq_some_iff] at h hother
  rw [h] at hother
  exact Option.some.inj (Except.ok.inj hother)

end MethodDeclaration

/-- A call to declare a method, and the reply. -/
structure Announcement where
  declaration : MethodDeclaration
  reply : Except Failure Unit

/-- The call has made this the declaration of the method. -/
def Announcement.Settles (a : Announcement) (method : String) (spec : WorkSpec) : Prop :=
  a.declaration.method = method ∧ a.declaration.Offers spec ∧ a.reply = .ok ()

namespace Setup.Tables

/-- What a call to declare a method makes of the shared tables. -/
def Declares (p : Setup.Tables) (a : Announcement) (p' : Setup.Tables) : Prop :=
  (Setup.declare a.declaration).Reaches Setup.Tables.Step p a.reply p'

/-- What the method has been declared to need. -/
def needs? (p : Setup.Tables) (method : String) : Option WorkSpec := p.declarations.find? method

/-- The tables with one more declaration. -/
def declaring (p : Setup.Tables) (method : String) (spec : WorkSpec) : Setup.Tables :=
  { p with declarations := { methods := p.declarations.methods.insert method spec } }

/-- The same registry, the same next identity, and the same declaration for each method. -/
structure Alike (p q : Setup.Tables) : Prop where
  registry : q.registry = p.registry
  minted : q.minted = p.minted
  needs? : ∀ method, q.needs? method = p.needs? method

variable {p p' q : Setup.Tables} {a b : Announcement} {method : String} {spec : WorkSpec}

theorem needs?_declaring {other : String} :
    (p.declaring method spec).needs? other = if method = other then some spec else p.needs? other :=
  Table.find?_insert ..

/-! ## What a call does -/

theorem declares_iff_declare :
    p.Declares a p' ↔
      match p.declarations.declare a.declaration with
      | .error failure => a.reply = .error failure ∧ p' = p
      | .ok (none, _) => a.reply = .ok () ∧ p' = p
      | .ok (some _, declarations) => a.reply = .ok () ∧ p' = { p with declarations } := by
  simp only [Declares, Setup.declare, Action.perform_bind, Action.done_bind,
    Action.reaches_perform]
  constructor
  · rintro ⟨_, _, ⟨rfl, hp⟩, h⟩
    rw [hp] at h
    rcases hdeclare : p.declarations.declare a.declaration with failure | ⟨_ | spec, declarations⟩
    · simpa only [hdeclare, Action.pure_eq_done, Action.reaches_done] using h
    · simpa only [hdeclare, Action.pure_eq_done, Action.reaches_done] using h
    · simp only [hdeclare, Setup.emit, Action.perform_bind, Action.done_bind,
        Action.reaches_perform, Action.reaches_done] at h
      obtain ⟨-, _, rfl, -, _, rfl, hreply, rfl⟩ := h
      exact ⟨hreply, rfl⟩
  · intro h
    refine ⟨p.declarations, p, ⟨rfl, rfl⟩, ?_⟩
    rcases hdeclare : p.declarations.declare a.declaration with failure | ⟨_ | spec, declarations⟩
    · simpa only [hdeclare, Action.pure_eq_done, Action.reaches_done] using h
    · simpa only [hdeclare, Action.pure_eq_done, Action.reaches_done] using h
    · rw [hdeclare] at h
      obtain ⟨hreply, rfl⟩ := h
      simp only [Setup.emit, Action.perform_bind, Action.done_bind, Action.reaches_perform,
        Action.reaches_done]
      exact ⟨(), p, rfl, (), _, rfl, hreply, rfl⟩

/-- A call is refused if it has two specifications, or one for a method that has its
declaration.  It is accepted otherwise, and adds the specification that it has, if any. -/
theorem declares_iff :
    p.Declares a p' ↔
      ((a.declaration.Doubled ∨
          (∃ spec, a.declaration.Offers spec) ∧ p.needs? a.declaration.method ≠ none) ∧
        a.reply = .error (.conflictingDeclaration a.declaration.method) ∧ p' = p) ∨
      (a.declaration.Blank ∧ a.reply = .ok () ∧ p' = p) ∨
      ∃ spec, a.declaration.Offers spec ∧ p.needs? a.declaration.method = none ∧
        a.reply = .ok () ∧ p' = p.declaring a.declaration.method spec := by
  have hcontains : p.declarations.methods.contains a.declaration.method =
      (p.needs? a.declaration.method).isSome := rfl
  obtain ⟨⟨method, definition, handler⟩, reply⟩ := a
  simp only [declares_iff_declare, Declarations.declare, hcontains, MethodDeclaration.spec?,
    MethodDeclaration.Doubled, MethodDeclaration.Blank, MethodDeclaration.Offers, declaring]
  rcases definition with _ | definition <;> rcases handler with _ | handler
  · simp
  · cases p.needs? method <;> simp
  · cases p.needs? method <;> simp
  · simp

/-- A call adds the declaration of its method, which had none, or it leaves the tables
alone. -/
theorem Declares.adds_or_leaves (h : p.Declares a p') :
    (∃ spec, a.Settles a.declaration.method spec ∧ p.needs? a.declaration.method = none ∧
      p' = p.declaring a.declaration.method spec) ∨
    ((∀ method spec, ¬ a.Settles method spec) ∧ p' = p) := by
  rcases declares_iff.mp h with ⟨-, hrefused, rfl⟩ | ⟨⟨hdefinition, hhandler⟩, -, rfl⟩ |
    ⟨spec, hoffers, hfree, haccepted, rfl⟩
  · refine Or.inr ⟨?_, rfl⟩
    rintro method spec ⟨-, -, haccepted⟩
    rw [hrefused] at haccepted
    cases haccepted
  · refine Or.inr ⟨?_, rfl⟩
    rintro method spec ⟨-, hoffers, -⟩
    simp [MethodDeclaration.Offers, hdefinition, hhandler] at hoffers
  · exact Or.inl ⟨spec, ⟨rfl, hoffers, haccepted⟩, hfree, rfl⟩

/-- A call does not touch the registry. -/
theorem Declares.registry_eq (h : p.Declares a p') :
    p'.registry = p.registry ∧ p'.minted = p.minted := by
  rcases h.adds_or_leaves with ⟨spec, -, -, rfl⟩ | ⟨-, rfl⟩
  · exact ⟨rfl, rfl⟩
  · exact ⟨rfl, rfl⟩

/-- Other methods are found as before. -/
theorem Declares.needs?_of_ne (h : p.Declares a p') (hne : a.declaration.method ≠ method) :
    p'.needs? method = p.needs? method := by
  rcases h.adds_or_leaves with ⟨spec, -, -, rfl⟩ | ⟨-, rfl⟩
  · rw [needs?_declaring, if_neg hne]
  · rfl

/-! ## Calls that change places -/

/-- The same call may be made wherever its method has the same declaration, or none again.
The reply is the same, and so is what becomes of the method. -/
theorem Declares.replay (h : p.Declares a p')
    (hsame : q.needs? a.declaration.method = p.needs? a.declaration.method) :
    ∃ q', q.Declares a q' ∧
      q'.needs? a.declaration.method = p'.needs? a.declaration.method := by
  rcases declares_iff.mp h with ⟨hconflict, hreply, rfl⟩ | ⟨hblank, hreply, rfl⟩ |
    ⟨spec, hoffers, hfree, hreply, rfl⟩
  · rw [← hsame] at hconflict
    exact ⟨q, declares_iff.mpr (Or.inl ⟨hconflict, hreply, rfl⟩), hsame⟩
  · exact ⟨q, declares_iff.mpr (Or.inr (Or.inl ⟨hblank, hreply, rfl⟩)), hsame⟩
  · rw [← hsame] at hfree
    refine ⟨_, declares_iff.mpr (Or.inr (Or.inr ⟨spec, hoffers, hfree, hreply, rfl⟩)), ?_⟩
    rw [needs?_declaring, needs?_declaring, if_pos rfl, if_pos rfl]

/-- Two calls for distinct methods may change places.  They are replied to as before, and
every method is found as before. -/
theorem Declares.swap {u t : Setup.Tables} (hfirst : p.Declares a u) (hsecond : u.Declares b t)
    (hne : a.declaration.method ≠ b.declaration.method) :
    ∃ v t', p.Declares b v ∧ v.Declares a t' ∧ t.Alike t' := by
  obtain ⟨v, hb, hvb⟩ := hsecond.replay (hfirst.needs?_of_ne hne).symm
  obtain ⟨t', ha, hta⟩ := hfirst.replay (hb.needs?_of_ne hne.symm)
  refine ⟨v, t', hb, ha, ?_, ?_, ?_⟩
  · rw [ha.registry_eq.1, hb.registry_eq.1, hsecond.registry_eq.1, hfirst.registry_eq.1]
  · rw [ha.registry_eq.2, hb.registry_eq.2, hsecond.registry_eq.2, hfirst.registry_eq.2]
  · intro method
    by_cases hma : a.declaration.method = method
    · subst hma
      rw [hta, hsecond.needs?_of_ne hne.symm]
    · rw [ha.needs?_of_ne hma]
      by_cases hmb : b.declaration.method = method
      · rw [← hmb, hvb]
      · rw [hb.needs?_of_ne hmb, hsecond.needs?_of_ne hmb, hfirst.needs?_of_ne hma]

namespace Alike

theorem declares (halike : p.Alike q) (h : p.Declares a p') :
    ∃ q', q.Declares a q' ∧ p'.Alike q' := by
  obtain ⟨q', hq, hown⟩ := h.replay (halike.needs? _)
  refine ⟨q', hq, ?_, ?_, ?_⟩
  · rw [hq.registry_eq.1, halike.registry, h.registry_eq.1]
  · rw [hq.registry_eq.2, halike.minted, h.registry_eq.2]
  · intro method
    by_cases hmethod : a.declaration.method = method
    · rw [← hmethod, hown]
    · rw [hq.needs?_of_ne hmethod, halike.needs?, h.needs?_of_ne hmethod]

theorem registers {r : Registration} (halike : p.Alike q) (h : p.Registers r p') :
    ∃ q', q.Registers r q' ∧ p'.Alike q' := by
  have hshared : q.newShared r.name r.factory = p.newShared r.name r.factory := by
    rw [newShared, newShared, halike.minted]
  rcases registers_iff.mp h with ⟨hfree, hreply, rfl⟩ | ⟨htaken, hreply, rfl⟩
  · rw [← halike.registry] at hfree
    refine ⟨_, registers_iff.mpr (Or.inl ⟨hfree, hshared ▸ hreply, rfl⟩), ?_, ?_, halike.needs?⟩
    · rw [registering, registering, halike.registry, hshared]
    · rw [registering, registering, halike.minted]
  · rw [← halike.registry] at htaken
    exact ⟨q, registers_iff.mpr (Or.inr ⟨htaken, hreply, rfl⟩), halike⟩

end Alike

/-- A registration does not touch the declarations. -/
theorem needs?_of_registers {r : Registration} (h : p.Registers r p') :
    p'.needs? method = p.needs? method := by
  rcases registers_iff.mp h with ⟨-, -, rfl⟩ | ⟨-, -, rfl⟩
  · rfl
  · rfl

end Setup.Tables

end Demarcation
