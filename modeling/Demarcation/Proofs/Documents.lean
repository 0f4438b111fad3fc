/-
Settings that documents declare.

A document is an object or an array.  An object declares what its members with known
names say, and nothing else, and the rest is the default (`FillsIn`).  It is refused if
and only if it names a field twice or has a value that does not suit its field.  An array
is the object with the first names of the structure for its elements.

The members are read one after the other, and each of them changes what the next one
finds.  That the order makes no difference is seen from what is left in the end: the
pass leaves what the values under the names declare (`Declares.of_fill`), as no field is
set twice.
-/
import Mathlib.Data.List.Nodup
import Demarcation.Proofs.Readings
import Demarcation.UnitSettings

namespace Demarcation.Json

open Text (ofDigits)

/-! ## Values that suit a field -/

/-- The number if it is written without sign, fraction and exponent. -/
def Figure.natural? (n : Figure) : Option Nat :=
  if n.negative = false ∧ n.fraction = none ∧ n.exponent = none then
    some (ofDigits n.whole.values)
  else none

namespace Tree

def text? : Tree → Option String
  | text l => some l.text
  | _ => none

def flag? : Tree → Option Bool
  | flag b => some b
  | _ => none

/-- An integer without sign, fraction and exponent, below `2 ^ bits`. -/
def word? (bits : Nat) : Tree → Option Nat
  | number n => n.natural?.filter (· < Nat.pow 2 bits)
  | _ => none

/-- One of several names, or an object with that name, `null`, and nothing else. -/
def variant? {α : Type} (names : List (String × α)) : Tree → Option α
  | text l => names.lookup l.text
  | object _ [⟨_, name, _, _, null, _⟩] => names.lookup name.text
  | _ => none

theorem toOption_asText (expected : String) (t : Tree) :
    (t.asText expected).toOption = t.text? := by
  cases t <;> rfl

theorem toOption_asFlag (t : Tree) : t.asFlag.toOption = t.flag? := by
  cases t <;> rfl

theorem toOption_variant {α : Type} (names : List (String × α)) (name : String) :
    (variant names name).toOption = names.lookup name := by
  rw [variant]
  cases names.lookup name <;> rfl

theorem toOption_asVariant {α : Type} (names : List (String × α)) (t : Tree) :
    (t.asVariant names).toOption = t.variant? names := by
  cases t with
  | null | flag | number | array => rfl
  | text l => exact toOption_variant names l.text
  | object gap ms =>
      match ms with
      | [] => rfl
      | ⟨_, name, _, _, value, _⟩ :: more =>
          rw [asVariant]
          cases value with
          | flag | number | text | array | object => cases variant names name.text <;> rfl
          | null =>
              cases more with
              | cons => cases variant names name.text <;> rfl
              | nil =>
                  show _ = names.lookup name.text
                  rw [← toOption_variant]
                  cases variant names name.text <;> rfl

/-- A number is read as a natural one if it is written as one and fits 64 bits. -/
theorem value?_numeral (n : Figure) {k : Nat} :
    n.numeral.value? = some (.natural k) ↔ n.natural? = some k ∧ k < Nat.pow 2 64 := by
  have hfraction : n.numeral.fraction = [] ↔ n.fraction = none := by
    show n.fraction.elim [] (·.values) = [] ↔ _
    cases n.fraction with
    | none => exact iff_of_true rfl rfl
    | some ds => exact iff_of_false (List.cons_ne_nil _ _) nofun
  have hexponent : n.numeral.exponent = none ↔ n.exponent = none := Option.map_eq_none_iff
  have hwritten : n.natural? = some k ↔ (n.negative = false ∧ n.fraction = none ∧
      n.exponent = none) ∧ ofDigits n.whole.values = k := by
    rw [Figure.natural?, Option.ite_none_right_eq_some, Option.some.injEq]
  rw [hwritten, Numeral.value?]
  simp only [hfraction, hexponent]
  constructor
  · intro hvalue
    split at hvalue
    · rename_i hplain
      obtain ⟨hnone, hnone', hsign, hlt⟩ := hplain
      obtain rfl : ofDigits n.whole.values = k := Number.natural.inj (Option.some.inj hvalue)
      have hunsigned : n.negative = false := Bool.not_eq_true' n.negative ▸ hsign
      exact ⟨⟨⟨hunsigned, hnone, hnone'⟩, rfl⟩, hlt⟩
    · split at hvalue
      · cases hvalue
      · obtain ⟨_, -, hfloating⟩ := Option.map_eq_some_iff.mp hvalue
        cases hfloating
  · rintro ⟨⟨⟨hsign, hnone, hnone'⟩, rfl⟩, hlt⟩
    have hpositive : (!n.numeral.negative) = true := congrArg (! ·) hsign
    exact if_pos ⟨hnone, hnone', hpositive, hlt⟩

theorem toOption_asWord {bits : Nat} (hbits : bits ≤ 64) (expected : String) (t : Tree) :
    (t.asWord bits expected).toOption = t.word? bits := by
  cases t with
  | null | flag | text | array | object => rfl
  | number n =>
      have hfits : ∀ k, k < Nat.pow 2 bits → k < Nat.pow 2 64 := by
        intro k hk
        exact Nat.lt_of_lt_of_le hk (Nat.pow_le_pow_right (by decide) hbits)
      have hread : ∀ k, ((number n).asWord bits expected).toOption = some k ↔
          n.numeral.value? = some (.natural k) ∧ k < Nat.pow 2 bits := by
        intro k
        rw [asWord]
        constructor
        · intro h
          cases hvalue : n.numeral.value? with
          | none =>
              rw [hvalue] at h
              cases h
          | some value =>
              rw [hvalue] at h
              cases value with
              | negative | floating => cases h
              | natural m =>
                  change (if m < Nat.pow 2 bits then Except.ok m else _).toOption = some k at h
                  by_cases hlt : m < Nat.pow 2 bits
                  · rw [if_pos hlt] at h
                    cases h
                    exact ⟨rfl, hlt⟩
                  · rw [if_neg hlt] at h
                    cases h
        · rintro ⟨hvalue, hlt⟩
          rw [hvalue]
          show (if k < Nat.pow 2 bits then Except.ok k else _).toOption = some k
          rw [if_pos hlt]
          rfl
      apply Option.ext
      intro k
      rw [hread, value?_numeral, word?, Option.filter_eq_some_iff, decide_eq_true_eq, and_assoc,
        and_iff_right_of_imp (hfits k)]

end Tree

/-! ## One pass over a document -/

/-- The name of a field with the values that suit it. -/
def Slot.rule {σ : Type} (slot : Slot σ) : String × (Tree → Bool) :=
  (slot.field.name, fun t => (slot.change t).toBool)

theorem Slot.suits_iff {σ : Type} {slot : Slot σ} {t : Tree} :
    slot.rule.2 t ↔ ∃ change, slot.change t = .ok change := by
  show (slot.change t).toBool = true ↔ _
  cases slot.change t with
  | error => exact iff_of_false Bool.false_ne_true nofun
  | ok change => exact iff_of_true rfl ⟨change, rfl⟩

theorem Slot.rule_of {σ α : Type} {name : String} {read : Reader α} {as : Tree → Except Problem α}
    {reads : Reads read as} {set : σ → α → σ} {as? : Tree → Option α}
    (h : ∀ t, (as t).toOption = as? t) :
    (Slot.of name reads set).rule = (name, fun t => (as? t).isSome) := by
  refine Prod.ext rfl (funext fun t => ?_)
  show ((as t).map _).toBool = (as? t).isSome
  rw [← h]
  cases as t <;> rfl

/-- What a field makes of a value is to store what its reader makes of it. -/
theorem Slot.change_of {σ α : Type} {name : String} {read : Reader α}
    {as : Tree → Except Problem α} {reads : Reads read as} {set : σ → α → σ} {t : Tree}
    {change : σ → σ} (h : (Slot.of name reads set).change t = .ok change) :
    ∃ value, (as t).toOption = some value ∧ change = fun s => set s value := by
  have hmap : (as t).map (fun value s => set s value) = .ok change := h
  cases hvalue : as t with
  | error =>
      rw [hvalue] at hmap
      cases hmap
  | ok value =>
      rw [hvalue] at hmap
      exact ⟨value, rfl, (Except.ok.inj hmap).symm⟩

/-- To change the field is to have one more value under the names: `declared` is what the
values under the names make of a structure. -/
def Slot.Replaces {σ : Type} (slot : Slot σ) (declared : σ → (String → Option Tree) → σ) : Prop :=
  ∀ t change, slot.change t = .ok change → ∀ acc f, f slot.field.name = none →
    declared (change acc) f = declared acc (Function.update f slot.field.name (some t))

theorem Slot.replaces_of {σ α : Type} {name : String} {read : Reader α}
    {as : Tree → Except Problem α} {reads : Reads read as} {set : σ → α → σ}
    {declared : σ → (String → Option Tree) → σ} {as? : Tree → Option α}
    (has : ∀ t, (as t).toOption = as? t)
    (h : ∀ t value, as? t = some value → ∀ acc f, f name = none →
      declared (set acc value) f = declared acc (Function.update f name (some t))) :
    (Slot.of name reads set).Replaces declared := by
  intro t change hchange acc f hnone
  obtain ⟨value, hvalue, rfl⟩ := Slot.change_of hchange
  exact h t value (has t ▸ hvalue) acc f hnone

namespace Schema

variable {σ : Type} {slots : List (Slot σ)} {seen : List String} {acc s : σ}
  {ms : List (String × Tree)}

/-- The names of fields among the names of members, each as often as it occurs. -/
def known (names : List String) (ms : List (String × Tree)) : List String :=
  (ms.map Prod.fst).filter (· ∈ names)

theorem known_cons (names : List String) (name : String) (t : Tree) :
    known names ((name, t) :: ms) =
      if name ∈ names then name :: known names ms else known names ms := by
  simp [known, List.filter_cons]

/-- One more name is apart from those that have been seen, and new among those to come. -/
theorem nodup_cons_apart {name : String} {names : List String} (hname : name ∉ seen) :
    ((name :: names).Nodup ∧ ∀ other ∈ name :: names, other ∉ seen) ↔
      names.Nodup ∧ ∀ other ∈ names, other ∉ name :: seen := by
  constructor
  · rintro ⟨hnodup, hapart⟩
    obtain ⟨hnew, hnodup⟩ := List.nodup_cons.mp hnodup
    refine ⟨hnodup, ?_⟩
    intro other hother hmem
    rcases List.mem_cons.mp hmem with rfl | hmem
    · exact hnew hother
    · exact hapart other (List.mem_cons_of_mem _ hother) hmem
  · rintro ⟨hnodup, hapart⟩
    refine ⟨List.nodup_cons.mpr ⟨?_, hnodup⟩, List.forall_mem_cons.mpr ⟨hname, ?_⟩⟩
    · intro hmem
      exact hapart name hmem List.mem_cons_self
    · intro other hother hmem
      exact hapart other hother (List.mem_cons_of_mem _ hmem)

/-- The field of a name. -/
theorem find?_eq_some_iff (hnodup : (slots.map (·.field.name)).Nodup) {name : String}
    {slot : Slot σ} : slots.find? (·.field.name = name) = some slot ↔
      slot ∈ slots ∧ slot.field.name = name := by
  constructor
  · intro hfind
    exact ⟨List.mem_of_find?_eq_some hfind, by simpa using List.find?_some hfind⟩
  · rintro ⟨hmem, rfl⟩
    cases hfind : slots.find? (·.field.name = slot.field.name) with
    | none =>
        have hnone := List.find?_eq_none.mp hfind slot hmem
        exact absurd (decide_eq_true rfl) hnone
    | some other =>
        have hname : other.field.name = slot.field.name := by simpa using List.find?_some hfind
        rw [List.inj_on_of_nodup_map hnodup (List.mem_of_find?_eq_some hfind) hmem hname]

theorem find?_eq_none_iff {name : String} :
    slots.find? (·.field.name = name) = none ↔ name ∉ slots.map (·.field.name) := by
  simp

/-- An object is taken if and only if it names no field twice and each of its values
suits its field. -/
theorem fill_ok_iff (hnodup : (slots.map (·.field.name)).Nodup) :
    (∃ s, fill slots seen acc ms = .ok s) ↔
      ((known (slots.map (·.field.name)) ms).Nodup ∧
        ∀ name ∈ known (slots.map (·.field.name)) ms, name ∉ seen) ∧
      ∀ m ∈ ms, ∀ slot ∈ slots, slot.field.name = m.1 → ∃ change, slot.change m.2 = .ok change := by
  induction ms generalizing seen acc with
  | nil => exact iff_of_true ⟨acc, rfl⟩ ⟨⟨List.nodup_nil, nofun⟩, nofun⟩
  | cons m ms ih =>
      obtain ⟨name, t⟩ := m
      rw [fill, known_cons, List.forall_mem_cons]
      cases hfind : slots.find? (·.field.name = name) with
      | none =>
          have hunknown := find?_eq_none_iff.mp hfind
          have hany : ∀ slot ∈ slots, slot.field.name = name →
              ∃ change, slot.change t = .ok change := by
            intro slot hmem hname
            exact absurd (List.mem_map.mpr ⟨slot, hmem, hname⟩) hunknown
          rw [if_neg hunknown, and_iff_right hany]
          exact ih
      | some slot =>
          obtain ⟨hmem, rfl⟩ := (find?_eq_some_iff hnodup).mp hfind
          have honly : (∀ other ∈ slots, other.field.name = slot.field.name →
              ∃ change, other.change t = .ok change) ↔ ∃ change, slot.change t = .ok change := by
            refine ⟨fun h => h slot hmem rfl, ?_⟩
            intro h other hother hname
            rwa [List.inj_on_of_nodup_map hnodup hother hmem hname]
          rw [if_pos (List.mem_map_of_mem hmem), honly]
          simp only
          by_cases hseen : slot.field.name ∈ seen
          · rw [if_pos hseen]
            constructor
            · rintro ⟨s, hs⟩
              cases hs
            · rintro ⟨⟨-, hnew⟩, -⟩
              exact absurd hseen (hnew _ List.mem_cons_self)
          rw [if_neg hseen]
          cases hchange : slot.change t with
          | error =>
              constructor
              · rintro ⟨s, hs⟩
                cases hs
              · rintro ⟨-, ⟨change, hok⟩, -⟩
                cases hok
          | ok change =>
              have hhead : ∃ change', (.ok change : Except Problem (σ → σ)) = .ok change' :=
                ⟨change, rfl⟩
              rw [nodup_cons_apart hseen, and_iff_right hhead]
              exact ih

/-- The values under the names of the fields are what makes a structure of another one. -/
structure Declares (slots : List (Slot σ)) (declared : σ → (String → Option Tree) → σ) : Prop where
  nothing : ∀ acc, declared acc (fun _ => none) = acc
  only : ∀ acc f g, (∀ name ∈ slots.map (·.field.name), f name = g name) →
    declared acc f = declared acc g
  one : ∀ slot ∈ slots, slot.Replaces declared

/-- A pass over the members leaves what they declare. -/
theorem Declares.of_fill {declared : σ → (String → Option Tree) → σ}
    (h : Declares slots declared) (hnodup : (slots.map (·.field.name)).Nodup)
    (hfill : fill slots seen acc ms = .ok s) :
    s = declared acc fun name => if name ∈ seen then none else ms.lookup name := by
  induction ms generalizing seen acc with
  | nil =>
      obtain rfl : acc = s := Except.ok.inj hfill
      have hnone : (fun name => if name ∈ seen then none
          else ([] : List (String × Tree)).lookup name) = fun _ => none := by
        funext name
        split <;> rfl
      rw [hnone, h.nothing]
  | cons m ms ih =>
      obtain ⟨name, t⟩ := m
      rw [fill] at hfill
      cases hfind : slots.find? (·.field.name = name) with
      | none =>
          rw [hfind] at hfill
          rw [ih hfill]
          refine h.only acc _ _ ?_
          intro other hother
          have hne : other ≠ name := by
            rintro rfl
            exact find?_eq_none_iff.mp hfind hother
          rw [List.lookup_cons, beq_false_of_ne hne]
      | some slot =>
          obtain ⟨hslot, rfl⟩ := (find?_eq_some_iff hnodup).mp hfind
          rw [hfind] at hfill
          simp only at hfill
          by_cases hseen : slot.field.name ∈ seen
          · rw [if_pos hseen] at hfill
            cases hfill
          rw [if_neg hseen] at hfill
          cases hchange : slot.change t with
          | error =>
              rw [hchange] at hfill
              cases hfill
          | ok change =>
              rw [hchange] at hfill
              rw [ih hfill, h.one slot hslot t change hchange acc _ (if_pos List.mem_cons_self)]
              congr 1
              funext name
              by_cases hname : name = slot.field.name
              · rw [hname, Function.update_self, if_neg hseen, List.lookup_cons, beq_self_eq_true]
              · rw [Function.update_of_ne hname, List.lookup_cons, beq_false_of_ne hname]
                simp only [List.mem_cons, hname, false_or]

/-- The elements of an array go to the fields in their order. -/
theorem fillFirst_eq_fill {before : List (Slot σ)} {ts : List Tree}
    (hnodup : ((before ++ slots).map (·.field.name)).Nodup)
    (hseen : ∀ name ∈ seen, name ∈ before.map (·.field.name)) (hlength : ts.length ≤ slots.length) :
    fillFirst slots acc ts =
      fill (before ++ slots) seen acc ((slots.map (·.field.name)).zip ts) := by
  induction ts generalizing slots before seen acc with
  | nil =>
      rw [List.zip_nil_right]
      cases slots <;> rfl
  | cons t ts ih =>
      cases slots with
      | nil => exact absurd hlength (Nat.not_succ_le_zero _)
      | cons slot slots =>
          have hfind : (before ++ slot :: slots).find? (·.field.name = slot.field.name) =
              some slot :=
            (find?_eq_some_iff hnodup).mpr ⟨List.mem_append_right _ List.mem_cons_self, rfl⟩
          have hapart : slot.field.name ∉ before.map (·.field.name) := by
            rw [List.map_append, List.nodup_append] at hnodup
            intro hmem
            exact hnodup.2.2 _ hmem _ List.mem_cons_self rfl
          rw [List.map_cons, List.zip_cons_cons, fillFirst, fill, hfind]
          simp only
          rw [if_neg fun h => hapart (hseen _ h)]
          cases slot.change t with
          | error => rfl
          | ok change =>
              have hsplit : before ++ slot :: slots = (before ++ [slot]) ++ slots := by simp
              rw [hsplit] at hnodup ⊢
              refine ih hnodup ?_ (Nat.le_of_succ_le_succ hlength)
              intro name hmem
              rw [List.map_append, List.mem_append]
              rcases List.mem_cons.mp hmem with rfl | hmem
              · exact Or.inr List.mem_cons_self
              · exact Or.inl (hseen name hmem)

end Schema

/-! ## Documents as texts -/

/-- A whole text: a value, with blanks around it. -/
def Tree.alone (t : Tree) (before after : Blanks) : String :=
  String.ofList (before.1 ++ (t.spelled ++ after.1))

/-- What a reader makes of the value of a text is what it makes of the text. -/
theorem readDocument_alone {α : Type} {read : Reader α} {t : Tree} {before after : Blanks}
    {result : Except Problem α}
    (h : read (before.1 ++ (t.spelled ++ after.1)) = result.map (·, after.1)) :
    readDocument read (t.alone before after) = result := by
  rw [readDocument, Tree.alone, String.toList_ofList, h]
  cases result with
  | error => rfl
  | ok value =>
      show (if skipBlanks after.1 = [] then _ else _) = _
      rw [if_pos (skipBlanks_self after)]
      rfl

/-- How a structure is declared.  The rules are the names of its fields, in their order,
with the values that suit them, and `declared` is the structure for the values that stand
under the names. -/
structure FillsIn {σ : Type} (ofJson : String → Except Problem σ)
    (rules : List (String × (Tree → Bool))) (declared : (String → Option Tree) → σ) : Prop where
  /-- An object is taken if and only if it names no field twice and its values suit their
  fields. -/
  taken : ∀ (before gap after : Blanks) (members : List (Entry Tree)),
    (∃ s, ofJson ((Tree.object gap members).alone before after) = .ok s) ↔
      (Schema.known (rules.map Prod.fst) (members.map Entry.pair)).Nodup ∧
      ∀ m ∈ members.map Entry.pair, ∀ rule ∈ rules, rule.1 = m.1 → rule.2 m.2
  /-- The structure is the one that is declared by what stands under the names. -/
  result : ∀ (before gap after : Blanks) (members : List (Entry Tree)) (s : σ),
    ofJson ((Tree.object gap members).alone before after) = .ok s →
      s = declared fun name => (members.map Entry.pair).lookup name
  /-- The order of the members makes no difference, nor do those of other names. -/
  order : ∀ (before gap after before' gap' after' : Blanks) (members members' : List (Entry Tree)),
    ((members.map Entry.pair).filter (·.1 ∈ rules.map Prod.fst)).Perm
        ((members'.map Entry.pair).filter (·.1 ∈ rules.map Prod.fst)) →
      (ofJson ((Tree.object gap members).alone before after)).toOption =
        (ofJson ((Tree.object gap' members').alone before' after')).toOption
  /-- An array declares what the object with the first names for its elements does. -/
  elements : ∀ (before gap after before' gap' after' : Blanks) (es : List (Element Tree))
    (members : List (Entry Tree)), es.length ≤ rules.length →
      members.map Entry.pair = (rules.map Prod.fst).zip (es.map Element.value) →
      ofJson ((Tree.array gap es).alone before after) =
        ofJson ((Tree.object gap' members).alone before' after')

namespace Schema

variable {σ : Type} {schema : Schema σ} {slots : List (Slot σ)} {names : List String}
  {ms ms' : List (String × Tree)}

/-- Under the name of a field stands the value of the one member with that name. -/
theorem lookup_eq_some_iff (hnodup : (known names ms).Nodup) {name : String} (hname : name ∈ names)
    {t : Tree} : ms.lookup name = some t ↔ (name, t) ∈ ms := by
  induction ms with
  | nil => exact iff_of_false nofun nofun
  | cons m ms ih =>
      obtain ⟨name', t'⟩ := m
      rw [known_cons] at hnodup
      by_cases hsame : name = name'
      · subst hsame
        rw [if_pos hname, List.nodup_cons] at hnodup
        rw [List.lookup_cons, beq_self_eq_true, List.mem_cons]
        have habsent : (name, t) ∉ ms := by
          intro hmem
          exact hnodup.1 (List.mem_filter.mpr ⟨List.mem_map_of_mem hmem, by simpa using hname⟩)
        simp [habsent, eq_comm]
      · have hrest : (known names ms).Nodup := by
          split at hnodup
          · exact (List.nodup_cons.mp hnodup).2
          · exact hnodup
        rw [List.lookup_cons, beq_false_of_ne hsame, List.mem_cons]
        simp [hsame, ih hrest]

theorem known_eq_map (ms : List (String × Tree)) :
    known names ms = (ms.filter (·.1 ∈ names)).map Prod.fst := by
  rw [known, List.filter_map]
  rfl

section Order

variable (hperm : (ms.filter (·.1 ∈ names)).Perm (ms'.filter (·.1 ∈ names)))
include hperm

theorem known_perm : (known names ms).Perm (known names ms') := by
  rw [known_eq_map, known_eq_map]
  exact hperm.map Prod.fst

theorem mem_iff_of_perm {name : String} (hname : name ∈ names) {t : Tree} :
    (name, t) ∈ ms ↔ (name, t) ∈ ms' := by
  have hmem : (name, t) ∈ ms.filter (·.1 ∈ names) ↔ (name, t) ∈ ms'.filter (·.1 ∈ names) :=
    hperm.mem_iff
  simpa [List.mem_filter, hname] using hmem

theorem lookup_eq_of_perm (hnodup : (known names ms).Nodup) {name : String}
    (hname : name ∈ names) : ms.lookup name = ms'.lookup name := by
  apply Option.ext
  intro t
  rw [lookup_eq_some_iff hnodup hname,
    lookup_eq_some_iff ((known_perm hperm).nodup_iff.mp hnodup) hname,
    mem_iff_of_perm hperm hname]

end Order

theorem readDocument_object (hslots : schema.fields = slots.map Slot.field)
    (before gap after : Blanks) (members : List (Entry Tree)) :
    readDocument schema.reader ((Tree.object gap members).alone before after) =
      fill slots [] schema.default (members.map Entry.pair) :=
  readDocument_alone (reader_object hslots gap before members)

theorem map_rule_fst : (slots.map Slot.rule).map Prod.fst = slots.map (·.field.name) := by
  rw [List.map_map]
  rfl

section Pass

variable {declared : σ → (String → Option Tree) → σ} {acc s : σ}
  (hnodup : (slots.map (·.field.name)).Nodup)
include hnodup

/-- What a pass takes, by the rules. -/
theorem fill_taken_iff : (∃ s, fill slots [] acc ms = .ok s) ↔
    (known ((slots.map Slot.rule).map Prod.fst) ms).Nodup ∧
      ∀ m ∈ ms, ∀ rule ∈ slots.map Slot.rule, rule.1 = m.1 → rule.2 m.2 := by
  have hrules : ∀ m : String × Tree, (∀ rule ∈ slots.map Slot.rule, rule.1 = m.1 → rule.2 m.2) ↔
      ∀ slot ∈ slots, slot.field.name = m.1 → ∃ change, slot.change m.2 = .ok change := by
    intro m
    rw [List.forall_mem_map]
    exact forall₂_congr fun slot _ => imp_congr_right fun _ => Slot.suits_iff
  rw [fill_ok_iff hnodup, map_rule_fst, and_iff_left fun _ _ => List.not_mem_nil]
  exact and_congr_right fun _ => forall₂_congr fun m _ => (hrules m).symm

/-- A whole pass leaves what stands under the names. -/
theorem Declares.fill_eq (h : Declares slots declared) (hfill : fill slots [] acc ms = .ok s) :
    s = declared acc fun name => ms.lookup name := by
  rw [h.of_fill hnodup hfill]
  simp only [List.not_mem_nil, if_false]

/-- The members may come in another order, with others in between that nobody knows. -/
theorem Declares.fill_of_perm (h : Declares slots declared)
    (hperm : (ms.filter (·.1 ∈ (slots.map Slot.rule).map Prod.fst)).Perm
      (ms'.filter (·.1 ∈ (slots.map Slot.rule).map Prod.fst)))
    (hfill : fill slots [] acc ms = .ok s) : fill slots [] acc ms' = .ok s := by
  obtain ⟨hknown, hsuits⟩ := (fill_taken_iff hnodup).mp ⟨s, hfill⟩
  have hknown' := (known_perm hperm).nodup_iff.mp hknown
  have hsuits' : ∀ m ∈ ms', ∀ rule ∈ slots.map Slot.rule, rule.1 = m.1 → rule.2 m.2 := by
    intro m hm rule hrule hname
    have hmem : m.1 ∈ (slots.map Slot.rule).map Prod.fst :=
      hname ▸ List.mem_map_of_mem hrule
    exact hsuits m ((mem_iff_of_perm hperm hmem).mpr hm) rule hrule hname
  obtain ⟨s', hfill'⟩ := (fill_taken_iff hnodup).mpr ⟨hknown', hsuits'⟩
  rw [hfill', h.fill_eq hnodup hfill', h.fill_eq hnodup hfill]
  refine congrArg Except.ok (h.only _ _ _ ?_)
  intro name hname
  rw [← map_rule_fst] at hname
  exact (lookup_eq_of_perm hperm hknown hname).symm

end Pass

/-- A structure whose fields are matched by functions on trees is declared by its
documents. -/
theorem fillsIn {declared : σ → (String → Option Tree) → σ} (h : Declares slots declared)
    (hslots : schema.fields = slots.map Slot.field) (hnodup : (slots.map (·.field.name)).Nodup) :
    FillsIn (readDocument schema.reader) (slots.map Slot.rule) (declared schema.default) := by
  have hobject := readDocument_object hslots
  refine ⟨?taken, ?result, ?order, ?elements⟩
  case taken =>
    intro before gap after members
    rw [hobject]
    exact fill_taken_iff hnodup
  case result =>
    intro before gap after members s hread
    rw [hobject] at hread
    exact h.fill_eq hnodup hread
  case order =>
    intro before gap after before' gap' after' members members' hperm
    have hsome : ∀ (result : Except Problem σ) s, result.toOption = some s ↔ result = .ok s := by
      rintro (_ | _) s
      · exact iff_of_false nofun nofun
      · exact Option.some_inj.trans (Except.ok.injEq _ _ ▸ Iff.rfl)
    rw [hobject, hobject]
    apply Option.ext
    intro s
    rw [hsome, hsome]
    exact ⟨h.fill_of_perm hnodup hperm, h.fill_of_perm hnodup hperm.symm⟩
  case elements =>
    intro before gap after before' gap' after' es members hlength hmembers
    rw [hobject, hmembers, map_rule_fst]
    refine (readDocument_alone (reader_array hslots gap before es)).trans ?_
    have hfirst : ([] ++ slots : List (Slot σ)) = slots := rfl
    rw [← hfirst] at hnodup
    refine fillFirst_eq_fill hnodup nofun ?_
    rwa [List.length_map, ← List.length_map Slot.rule]

end Schema

end Demarcation.Json

namespace Demarcation

open Json

/-! ## Specifications -/

namespace WorkSpec

/-- The fields of a specification, with the values that suit them. -/
def rules : List (String × (Tree → Bool)) := [
  ("unit", fun t => t.text?.isSome),
  ("read_only", fun t => t.flag?.isSome),
  ("transactional", fun t => t.flag?.isSome),
  ("cache_mode", fun t => (t.variant? CacheMode.names).isSome),
  ("flush_mode", fun t => (t.variant? FlushMode.names).isSome)]

/-- A specification with the fields replaced that have a value. -/
def declared (start : WorkSpec) (value? : String → Option Tree) : WorkSpec where
  unit := ((value? "unit").bind Tree.text?).getD start.unit
  readOnly := ((value? "read_only").bind Tree.flag?).getD start.readOnly
  transactional := ((value? "transactional").bind Tree.flag?).getD start.transactional
  cacheMode := ((value? "cache_mode").bind (Tree.variant? CacheMode.names)).getD start.cacheMode
  flushMode := ((value? "flush_mode").bind (Tree.variant? FlushMode.names)).getD start.flushMode

/-- The fields of a specification, with what they make of each value. -/
def slots : List (Slot WorkSpec) := [
  .of "unit" (reads_string "a string") fun spec unit => { spec with unit },
  .of "read_only" reads_flag fun spec readOnly => { spec with readOnly },
  .of "transactional" reads_flag fun spec transactional => { spec with transactional },
  .of "cache_mode" (reads_variant CacheMode.names) fun spec cacheMode => { spec with cacheMode },
  .of "flush_mode" (reads_variant FlushMode.names) fun spec flushMode => { spec with flushMode }]

theorem fields_eq : schema.fields = slots.map Slot.field := rfl

theorem rules_eq : slots.map Slot.rule = rules := by
  simp only [slots, List.map_cons, List.map_nil, Slot.rule_of (Tree.toOption_asText "a string"),
    Slot.rule_of Tree.toOption_asFlag, Slot.rule_of (Tree.toOption_asVariant _)]
  rfl

theorem declares : Schema.Declares slots declared where
  nothing _ := rfl
  only acc f g h := by
    simp only [declared, h "unit" (by decide), h "read_only" (by decide),
      h "transactional" (by decide), h "cache_mode" (by decide), h "flush_mode" (by decide)]
  one := by
    simp only [slots, List.forall_mem_cons]
    refine ⟨Slot.replaces_of (Tree.toOption_asText _) ?_, Slot.replaces_of Tree.toOption_asFlag ?_,
      Slot.replaces_of Tree.toOption_asFlag ?_, Slot.replaces_of (Tree.toOption_asVariant _) ?_,
      Slot.replaces_of (Tree.toOption_asVariant _) ?_, nofun⟩
    all_goals
      intro t value hvalue acc f hnone
      simp [declared, hvalue, hnone]

end WorkSpec

/-! ## Settings -/

namespace UnitSettings

/-- The fields of the settings, with the values that suit them. -/
def rules : List (String × (Tree → Bool)) := [
  ("name", fun t => t.text?.isSome),
  ("url", fun t => t.text?.isSome),
  ("max_connections", fun t => (t.word? 32).isSome),
  ("min_connections", fun t => (t.word? 32).isSome),
  ("acquire_timeout_secs", fun t => (t.word? 64).isSome),
  ("validation_query", fun t => t.text?.isSome),
  ("validation_timeout_secs", fun t => (t.word? 64).isSome)]

/-- Settings with the fields replaced that have a value. -/
def declared (start : UnitSettings) (value? : String → Option Tree) : UnitSettings where
  name := ((value? "name").bind Tree.text?).getD start.name
  url := ((value? "url").bind Tree.text?).getD start.url
  maxConnections := ((value? "max_connections").bind (Tree.word? 32)).getD start.maxConnections
  minConnections := ((value? "min_connections").bind (Tree.word? 32)).getD start.minConnections
  acquireTimeoutSecs :=
    ((value? "acquire_timeout_secs").bind (Tree.word? 64)).getD start.acquireTimeoutSecs
  validationQuery := ((value? "validation_query").bind Tree.text?).getD start.validationQuery
  validationTimeoutSecs :=
    ((value? "validation_timeout_secs").bind (Tree.word? 64)).getD start.validationTimeoutSecs

/-- The fields of the settings, with what they make of each value. -/
def slots : List (Slot UnitSettings) := [
  .of "name" (reads_string "a string") fun s name => { s with name },
  .of "url" (reads_string "a string") fun s url => { s with url },
  .of "max_connections" (reads_word 32 "u32") fun s maxConnections => { s with maxConnections },
  .of "min_connections" (reads_word 32 "u32") fun s minConnections => { s with minConnections },
  .of "acquire_timeout_secs" (reads_word 64 "u64")
    fun s acquireTimeoutSecs => { s with acquireTimeoutSecs },
  .of "validation_query" (reads_string "a string")
    fun s validationQuery => { s with validationQuery },
  .of "validation_timeout_secs" (reads_word 64 "u64")
    fun s validationTimeoutSecs => { s with validationTimeoutSecs }]

theorem fields_eq : schema.fields = slots.map Slot.field := rfl

theorem rules_eq : slots.map Slot.rule = rules := by
  simp only [slots, List.map_cons, List.map_nil, Slot.rule_of (Tree.toOption_asText "a string"),
    Slot.rule_of (Tree.toOption_asWord (show 32 ≤ 64 by decide) "u32"),
    Slot.rule_of (Tree.toOption_asWord (show 64 ≤ 64 by decide) "u64")]
  rfl

theorem declares : Schema.Declares slots declared where
  nothing _ := rfl
  only acc f g h := by
    simp only [declared, h "name" (by decide), h "url" (by decide), h "max_connections" (by decide),
      h "min_connections" (by decide), h "acquire_timeout_secs" (by decide),
      h "validation_query" (by decide), h "validation_timeout_secs" (by decide)]
  one := by
    simp only [slots, List.forall_mem_cons]
    refine ⟨Slot.replaces_of (Tree.toOption_asText _) ?_,
      Slot.replaces_of (Tree.toOption_asText _) ?_,
      Slot.replaces_of (Tree.toOption_asWord (by decide) _) ?_,
      Slot.replaces_of (Tree.toOption_asWord (by decide) _) ?_,
      Slot.replaces_of (Tree.toOption_asWord (by decide) _) ?_,
      Slot.replaces_of (Tree.toOption_asText _) ?_,
      Slot.replaces_of (Tree.toOption_asWord (by decide) _) ?_, nofun⟩
    all_goals
      intro t value hvalue acc f hnone
      simp [declared, hvalue, hnone]

end UnitSettings

/-- Specifications and settings are what their documents declare, and the default where
they declare nothing. -/
theorem documents_fill_in :
    FillsIn WorkSpec.ofJson WorkSpec.rules (WorkSpec.declared {}) ∧
      FillsIn UnitSettings.ofJson UnitSettings.rules (UnitSettings.declared {}) := by
  constructor
  · rw [← WorkSpec.rules_eq]
    exact Schema.fillsIn WorkSpec.declares WorkSpec.fields_eq (by decide)
  · rw [← UnitSettings.rules_eq]
    exact Schema.fillsIn UnitSettings.declares UnitSettings.fields_eq (by decide)

end Demarcation
