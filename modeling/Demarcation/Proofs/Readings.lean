/-
What the readers make of a value.

A reader is given a text and finds out by itself where its value ends.  So what it says
is a matter of the value that stands there and not of what comes behind it (`Reads`):
each reader is matched by a function on trees, for the values that it takes and for
those that it refuses.

A document that fills in a structure is then one pass over its members or elements
(`Schema.fill`, `Schema.fillElements`), whatever the blanks, the escapes and the members
that it passes over.
-/
import Demarcation.Json.Document
import Demarcation.Proofs.Spelling

namespace Demarcation.Json

open Text (ofDigits)

/-! ## Values -/

namespace Tree

/-- What a value is in a report; a number beyond the largest double has no report. -/
def found? : Tree → Option Found
  | null => some .null
  | flag b => some (.flag b)
  | number n => n.numeral.value?.map Number.found
  | text l => some (.text l.text)
  | array .. => some .array
  | object .. => some .object

/-- The problem of a value that stands where something else is expected. -/
def unexpected (expected : String) (t : Tree) : Problem :=
  match t.found? with
  | none => .malformed
  | some found => .mismatch (.wrongType found expected)

/-- The value as a text. -/
def asText (expected : String) : Tree → Except Problem String
  | text l => .ok l.text
  | t => .error (t.unexpected expected)

/-- The value as `true` or `false`. -/
def asFlag : Tree → Except Problem Bool
  | flag b => .ok b
  | t => .error (t.unexpected "a boolean")

/-- The value as `null`. -/
def asNull : Tree → Except Problem Unit
  | null => .ok ()
  | t => .error (t.unexpected "unit")

/-- The value as a natural number below `2 ^ bits`. -/
def asWord (bits : Nat) (expected : String) : Tree → Except Problem Nat
  | number n =>
    match n.numeral.value? with
    | some (.natural k) =>
      if k < Nat.pow 2 bits then .ok k else .error (.mismatch (.outOfRange k expected))
    | some (.negative k) => .error (.mismatch (.outOfRange k expected))
    | _ => .error ((number n).unexpected expected)
  | t => .error (t.unexpected expected)

/-- The value as one of several names: the name itself, or an object with `null` under
that name and nothing else. -/
def asVariant {α : Type} (names : List (String × α)) : Tree → Except Problem α
  | text l => variant names l.text
  | object _ (⟨_, name, _, _, value, _⟩ :: more) => do
    let chosen ← variant names name.text
    value.asNull
    if more.isEmpty then .ok chosen else .error .malformed
  | _ => .error .malformed

end Tree

/-! ## Readers -/

/-- What a reader makes of each value, whatever stands around it. -/
def Reads {α : Type} (read : Reader α) (as : Tree → Except Problem α) : Prop :=
  ∀ (t : Tree) (blanks : Blanks) (rest : List Char), Ends rest →
    read (blanks.1 ++ (t.spelled ++ rest)) = (as t).map (·, rest)

theorem Reads.map {α β : Type} {read : Reader α} {as : Tree → Except Problem α}
    (h : Reads read as) (f : α → β) :
    Reads (fun cs => (read cs).map fun (a, rest) => (f a, rest)) fun t => (as t).map f := by
  intro t blanks rest hrest
  show (read _).map _ = ((as t).map f).map _
  rw [h t blanks rest hrest]
  cases as t <;> rfl

section

variable {rest : List Char}

theorem Tree.skipBlanks_spelled (t : Tree) (rest : List Char) :
    skipBlanks (t.spelled ++ rest) = t.spelled ++ rest := by
  obtain ⟨c, cs, hspelled, hblank, -⟩ := t.spelled_eq_cons
  rw [hspelled]
  exact skipBlanks_cons hblank _

theorem readNumber_spelled (n : Figure) (hrest : Ends rest) :
    readNumber (n.spelled ++ rest) = n.numeral.value?.map (·, rest) := by
  simp only [readNumber, Numeral.scan_spelled n hrest, Option.bind_eq_bind, Option.bind_some]
  cases n.numeral.value? <;> rfl

theorem found?_spelled (t : Tree) (hrest : Ends rest) : found? (t.spelled ++ rest) = t.found? := by
  rw [found?, t.skipBlanks_spelled]
  cases t with
  | null | array | object => rfl
  | flag b => cases b <;> rfl
  | text l =>
      show (readText (l.opened ++ rest)).map _ = _
      rw [l.readText_opened]
      rfl
  | number n =>
      have hread := readNumber_spelled n hrest
      obtain ⟨c, cs, hspelled, -, hc⟩ := n.spelled_eq_cons
      simp only [Tree.spelled, hspelled, List.cons_append] at hread ⊢
      split
      case h_7 =>
        rw [hread, Option.map_map]
        rfl
      all_goals simp_all

theorem unexpected_spelled (expected : String) (t : Tree) (hrest : Ends rest) :
    unexpected expected (t.spelled ++ rest) = t.unexpected expected := by
  rw [unexpected, found?_spelled t hrest]
  rfl

theorem unexpected_append (expected : String) (blanks : Blanks) (cs : List Char) :
    unexpected expected (blanks.1 ++ cs) = unexpected expected cs := by
  rw [unexpected, unexpected, found?, found?, skipBlanks_append]

end

theorem reads_string (expected : String) : Reads (readString expected) (Tree.asText expected) := by
  intro t blanks rest hrest
  have hother := unexpected_spelled expected t hrest
  rw [readString, skipBlanks_append, t.skipBlanks_spelled]
  cases t with
  | null | array | object => exact congrArg Except.error hother
  | flag b => cases b <;> exact congrArg Except.error hother
  | text l =>
      show wellFormed (readText (l.opened ++ rest)) = _
      rw [l.readText_opened]
      rfl
  | number n =>
      obtain ⟨c, cs, hspelled, -, hc⟩ := n.spelled_eq_cons
      simp only [Tree.spelled, hspelled, List.cons_append] at hother ⊢
      split
      case h_2 => exact congrArg Except.error hother
      all_goals simp_all

theorem reads_flag : Reads readFlag Tree.asFlag := by
  intro t blanks rest hrest
  have hother := unexpected_spelled "a boolean" t hrest
  rw [readFlag, skipBlanks_append, t.skipBlanks_spelled]
  cases t with
  | null | array | object | text => exact congrArg Except.error hother
  | flag b => cases b <;> rfl
  | number n =>
      obtain ⟨c, cs, hspelled, -, hc⟩ := n.spelled_eq_cons
      simp only [Tree.spelled, hspelled, List.cons_append] at hother ⊢
      split
      case h_3 => exact congrArg Except.error hother
      all_goals simp_all

theorem reads_null : Reads readNull Tree.asNull := by
  intro t blanks rest hrest
  have hother := unexpected_spelled "unit" t hrest
  rw [readNull, skipBlanks_append, t.skipBlanks_spelled]
  cases t with
  | null => rfl
  | array | object | text => exact congrArg Except.error hother
  | flag b => cases b <;> exact congrArg Except.error hother
  | number n =>
      obtain ⟨c, cs, hspelled, -, hc⟩ := n.spelled_eq_cons
      simp only [Tree.spelled, hspelled, List.cons_append] at hother ⊢
      split
      case h_2 => exact congrArg Except.error hother
      all_goals simp_all

theorem reads_word (bits : Nat) (expected : String) :
    Reads (readWord bits expected) (Tree.asWord bits expected) := by
  intro t blanks rest hrest
  have hother := unexpected_spelled expected t hrest
  simp only [readWord, unexpected_append, skipBlanks_append, t.skipBlanks_spelled]
  cases t with
  | null | array | object | text => exact congrArg Except.error hother
  | flag b => cases b <;> exact congrArg Except.error hother
  | number n =>
      simp only [Tree.spelled] at hother ⊢
      rw [readNumber_spelled n hrest, Tree.asWord]
      cases n.numeral.value? with
      | none => exact congrArg Except.error hother
      | some value =>
          cases value with
          | natural k =>
              show (if _ then _ else _) = Except.map _ (if _ then _ else _)
              split <;> rfl
          | negative k => rfl
          | floating => exact congrArg Except.error hother

theorem readName_append (blanks : Blanks) (cs : List Char) :
    readName (blanks.1 ++ cs) = readName cs := by
  rw [readName, readName, skipBlanks_append]

theorem readName_spelled (name : Literal) (rest : List Char) :
    readName (name.spelled ++ rest) = .ok (name.text, rest) := by
  show wellFormed (readText (name.opened ++ rest)) = _
  rw [name.readText_opened]
  rfl

theorem reads_variant {α : Type} (names : List (String × α)) :
    Reads (readVariant names) (Tree.asVariant names) := by
  intro t blanks rest hrest
  rw [readVariant, skipBlanks_append, t.skipBlanks_spelled]
  cases t with
  | null | array => rfl
  | flag b => cases b <;> rfl
  | number n =>
      obtain ⟨c, cs, hspelled, -, hc⟩ := n.spelled_eq_cons
      simp only [Tree.spelled, hspelled, List.cons_append] at hc ⊢
      split
      case h_3 => rfl
      all_goals simp_all
  | text l =>
      show (wellFormed (readText (l.opened ++ rest)) >>= _) = _
      rw [l.readText_opened]
      show (variant names l.text >>= _) = (variant names l.text).map _
      cases variant names l.text <;> rfl
  | object gap ms =>
      simp only [Tree.spelled, List.cons_append, List.append_assoc, List.nil_append,
        readName_append]
      cases ms with
      | nil => rfl
      | cons m ms =>
          obtain ⟨before, name, beforeColon, afterColon, value, after⟩ := m
          have hnull := reads_null value afterColon _
            (Tree.ends_more (Or.inr rfl) after (Tree.memberParts ms) rest)
          simp only [Tree.memberParts, Tree.writeParts_cons, List.append_assoc, List.cons_append,
            readName_append, readName_spelled, Tree.asVariant]
          show (variant names name.text >>= _) = (variant names name.text >>= _).map _
          cases variant names name.text with
          | error => rfl
          | ok chosen =>
              simp only [bind, Except.bind, skipColon_append, wellFormed, hnull]
              cases value.asNull with
              | error => rfl
              | ok =>
                  simp only [Except.map, skipBlanks_append]
                  cases ms <;> rfl

/-! ## Documents -/

/-- The name that is meant and the value of a member. -/
def Entry.pair (m : Entry Tree) : String × Tree := (m.name.text, m.value)

/-- A field together with what its reader makes of each value. -/
structure Slot (σ : Type) where
  field : Field σ
  change : Tree → Except Problem (σ → σ)
  reads : Reads field.read change

/-- A field whose value is stored by `set`. -/
def Slot.of {σ α : Type} (name : String) {read : Reader α} {as : Tree → Except Problem α}
    (reads : Reads read as) (set : σ → α → σ) : Slot σ where
  field := .of name read set
  change t := (as t).map fun value s => set s value
  reads := reads.map fun value s => set s value

namespace Schema

variable {σ : Type}

/-- The structure that the members of an object make of another one, member by member.
`seen` lists the fields that have been set. -/
def fill (slots : List (Slot σ)) (seen : List String) (acc : σ) :
    List (String × Tree) → Except Problem σ
  | [] => .ok acc
  | (name, t) :: members =>
    match slots.find? (·.field.name = name) with
    | none => fill slots seen acc members
    | some slot =>
      if name ∈ seen then .error (.mismatch (.duplicateField name))
      else do
        let change ← slot.change t
        fill slots (name :: seen) (change acc) members

/-- The structure that the elements of an array make of another one.  There is no field
for an element beyond the last one. -/
def fillFirst : List (Slot σ) → σ → List Tree → Except Problem σ
  | _, acc, [] => .ok acc
  | [], _, _ :: _ => .error .malformed
  | slot :: slots, acc, t :: ts => do
    let change ← slot.change t
    fillFirst slots (change acc) ts

section Members

variable {schema : Schema σ} {slots : List (Slot σ)} {fuel : Nat} {first : Bool}
  {seen : List String} {acc : σ} {cs next rest : List Char}

theorem field?_eq (hslots : schema.fields = slots.map Slot.field) (name : String) :
    schema.field? name = (slots.find? (·.field.name = name)).map Slot.field := by
  rw [field?, hslots, List.find?_map]
  rfl

/-- One member is read, and then the next ones. -/
theorem readMembersWith_succ (hslots : schema.fields = slots.map Slot.field)
    (name : Literal) (beforeColon afterColon : Blanks) (value : Tree) (hrest : Ends rest)
    (hnext : nextMember first cs = .ok (some next))
    (hcs : skipBlanks next = name.spelled ++ (beforeColon.1 ++ ':' :: (afterColon.1 ++
      (value.spelled ++ rest)))) :
    schema.readMembersWith (fuel + 1) first seen acc cs =
      match slots.find? (·.field.name = name.text) with
      | none => schema.readMembersWith fuel false seen acc rest
      | some slot =>
        if name.text ∈ seen then .error (.mismatch (.duplicateField name.text))
        else slot.change value >>= fun change =>
          schema.readMembersWith fuel false (name.text :: seen) (change acc) rest := by
  have hread : readText (name.opened ++ (beforeColon.1 ++ ':' :: (afterColon.1 ++
      (value.spelled ++ rest)))) = _ := name.readText_opened _
  have hskip := value.skipValue_spelled afterColon hrest
  rw [readMembersWith, hnext]
  simp only [bind, Except.bind, hcs, Literal.spelled, List.cons_append, hread, wellFormed,
    field?_eq hslots]
  cases hfind : slots.find? (·.field.name = name.text) with
  | none =>
      simp only [Option.map_none, skipColon_append, hskip]
  | some slot =>
      have hvalue := slot.reads value afterColon rest hrest
      simp only [Option.map_some, skipColon_append]
      by_cases hseen : name.text ∈ seen
      · simp only [if_pos hseen]
        rfl
      · simp only [if_neg hseen, hvalue]
        cases slot.change value <;> rfl

/-- The text of an object from the name of a member on. -/
def onward (m : Entry Tree) (members : List (Entry Tree)) (rest : List Char) : List Char :=
  m.name.spelled ++ (m.beforeColon.1 ++ ':' :: (m.afterColon.1 ++ (m.value.spelled ++
    (m.after.1 ++ (Tree.moreParts (Tree.memberParts members) ++ '}' :: rest)))))

/-- The text is at the next member of an object, or at its bracket. -/
def AtMembers (first : Bool) (cs rest : List Char) : List (Entry Tree) → Prop
  | [] => nextMember first cs = .ok none ∧ closing '}' cs = .ok rest
  | m :: members =>
    ∃ next, nextMember first cs = .ok (some next) ∧ skipBlanks next = onward m members rest

theorem atMembers_nil (first : Bool) (blanks : Blanks) (rest : List Char) :
    AtMembers first (blanks.1 ++ '}' :: rest) rest [] := by
  refine ⟨?_, ?_⟩
  · rw [nextMember, skipBlanks_append]
    rfl
  · rw [closing, skipBlanks_append]
    rfl

theorem atMembers_first (gap : Blanks) (members : List (Entry Tree)) (rest : List Char) :
    AtMembers true (gap.1 ++ (writeParts (Tree.memberParts members) ++ '}' :: rest)) rest
      members := by
  cases members with
  | nil => exact atMembers_nil true gap rest
  | cons m members =>
      refine ⟨onward m members rest, ?_, skipBlanks_cons (by decide) _⟩
      simp only [Tree.memberParts, Tree.writeParts_cons, List.append_assoc, List.cons_append]
      rw [nextMember, skipBlanks_append, skipBlanks_append]
      rfl

theorem atMembers_more (after : Blanks) (members : List (Entry Tree)) (rest : List Char) :
    AtMembers false (after.1 ++ (Tree.moreParts (Tree.memberParts members) ++ '}' :: rest)) rest
      members := by
  cases members with
  | nil => exact atMembers_nil false after rest
  | cons m members =>
      refine ⟨m.before.1 ++ onward m members rest, ?_, ?_⟩
      · simp only [Tree.memberParts, Tree.moreParts, List.append_assoc, List.cons_append]
        rw [nextMember, skipBlanks_append]
        rfl
      · rw [skipBlanks_append]
        exact skipBlanks_cons (by decide) _

/-- The members of an object are one pass of `fill`. -/
theorem readMembersWith_spelled (hslots : schema.fields = slots.map Slot.field)
    (members : List (Entry Tree)) (hat : AtMembers first cs rest members)
    (hfuel : (Tree.moreParts (Tree.memberParts members)).length < fuel) :
    (schema.readMembersWith fuel first seen acc cs >>=
        fun result => (closing '}' result.2).map (result.1, ·)) =
      (fill slots seen acc (members.map Entry.pair)).map (·, rest) := by
  induction members generalizing fuel first seen acc cs with
  | nil =>
      cases fuel with
      | zero => exact absurd hfuel (Nat.not_lt_zero _)
      | succ fuel =>
          obtain ⟨hend, hclose⟩ := hat
          simp only [readMembersWith, hend]
          show (closing '}' cs).map _ = _
          rw [hclose]
          rfl
  | cons m members ih =>
      obtain ⟨before, name, beforeColon, afterColon, value, after⟩ := m
      cases fuel with
      | zero => exact absurd hfuel (Nat.not_lt_zero _)
      | succ fuel =>
          obtain ⟨next, hnext, hcs⟩ := hat
          simp only [Tree.memberParts, Tree.moreParts, List.length_cons, List.length_append]
            at hfuel
          have hat := atMembers_more after members rest
          rw [readMembersWith_succ hslots name beforeColon afterColon value
            (Tree.ends_more (Or.inr rfl) after (Tree.memberParts members) rest) hnext hcs]
          simp only [List.map_cons, Entry.pair, fill]
          cases slots.find? (·.field.name = name.text) with
          | none => exact ih hat (by omega)
          | some slot =>
              simp only
              by_cases hseen : name.text ∈ seen
              · rw [if_pos hseen, if_pos hseen]
                rfl
              · rw [if_neg hseen, if_neg hseen]
                cases slot.change value with
                | error => rfl
                | ok change => exact ih hat (by omega)

/-- An object is its members up to the bracket. -/
theorem reader_brace (blanks : Blanks) (cs : List Char) :
    schema.reader (blanks.1 ++ '{' :: cs) =
      (schema.readMembersWith (cs.length + 1) true [] schema.default cs >>= fun result =>
        (closing '}' result.2).map (result.1, ·)) := by
  rw [reader, skipBlanks_append, skipBlanks_cons (by decide)]
  simp only [bind, Except.bind]
  cases schema.readMembersWith (cs.length + 1) true [] schema.default cs with
  | error => rfl
  | ok result =>
      simp only
      cases closing '}' result.2 <;> rfl

/-- What an object makes of the structure. -/
theorem reader_object (hslots : schema.fields = slots.map Slot.field) (gap blanks : Blanks)
    (members : List (Entry Tree)) :
    schema.reader (blanks.1 ++ ((Tree.object gap members).spelled ++ rest)) =
      (fill slots [] schema.default (members.map Entry.pair)).map (·, rest) := by
  simp only [Tree.spelled, List.cons_append, List.append_assoc, List.nil_append, reader_brace]
  refine readMembersWith_spelled hslots members (atMembers_first gap members rest) ?_
  have hlength := @Tree.length_moreParts (Tree.memberParts members)
  by_cases hne : Tree.memberParts members = []
  · rw [hne]
    exact Nat.succ_pos _
  · rw [hlength hne, List.length_append, List.length_append, List.length_cons]
    omega

end Members

/-! ### Arrays -/

section Elements

variable {schema : Schema σ} {slots : List (Slot σ)} {first : Bool} {acc : σ}
  {cs rest : List Char}

/-- The text of an array from one of its elements on. -/
def elementOnward (e : Element Tree) (es : List (Element Tree)) (rest : List Char) : List Char :=
  e.value.spelled ++ (e.after.1 ++ (Tree.moreParts (Tree.elementParts es) ++ ']' :: rest))

/-- The text is at the next element of an array, or at its bracket. -/
def AtElements (first : Bool) (cs rest : List Char) : List (Element Tree) → Prop
  | [] => nextElement first cs = .ok none ∧ closing ']' cs = .ok rest
  | e :: es => closing ']' cs = .error .malformed ∧
      ∃ blanks : Blanks, nextElement first cs = .ok (some (blanks.1 ++ elementOnward e es rest))

theorem atElements_nil (first : Bool) (blanks : Blanks) (rest : List Char) :
    AtElements first (blanks.1 ++ ']' :: rest) rest [] := by
  refine ⟨?_, ?_⟩
  · rw [nextElement, skipBlanks_append]
    rfl
  · rw [closing, skipBlanks_append]
    rfl

theorem atElements_first (gap : Blanks) (es : List (Element Tree)) (rest : List Char) :
    AtElements true (gap.1 ++ (writeParts (Tree.elementParts es) ++ ']' :: rest)) rest es := by
  cases es with
  | nil => exact atElements_nil true gap rest
  | cons e es =>
      obtain ⟨c, cs, hspelled, hblank, hc⟩ := e.value.spelled_eq_cons
      simp only [Tree.elementParts, Tree.writeParts_cons, List.append_assoc]
      refine ⟨?_, ∅, ?_⟩
      · rw [closing, skipBlanks_append, skipBlanks_append, hspelled, List.cons_append,
          skipBlanks_cons hblank]
        exact if_neg fun h => hc (by simp [h])
      · rw [nextElement, skipBlanks_append, skipBlanks_append, elementOnward, hspelled,
          List.cons_append, skipBlanks_cons hblank]
        split
        case h_4 => rfl
        all_goals simp_all

theorem atElements_more (after : Blanks) (es : List (Element Tree)) (rest : List Char) :
    AtElements false (after.1 ++ (Tree.moreParts (Tree.elementParts es) ++ ']' :: rest)) rest
      es := by
  cases es with
  | nil => exact atElements_nil false after rest
  | cons e es =>
      obtain ⟨c, cs, hspelled, hblank, hc⟩ := e.value.spelled_eq_cons
      simp only [Tree.elementParts, Tree.moreParts, List.append_assoc, List.cons_append]
      refine ⟨?_, e.before, ?_⟩
      · rw [closing, skipBlanks_append]
        rfl
      · rw [nextElement, skipBlanks_append, skipBlanks_cons (by decide)]
        simp only [skipBlanks_append, hspelled, List.cons_append, skipBlanks_cons hblank]
        rw [if_neg Bool.false_ne_true]
        split
        · simp_all
        · rw [elementOnward, hspelled]
          rfl

/-- The elements of an array are one pass of `fillFirst`. -/
theorem readElements_spelled (es : List (Element Tree)) (hat : AtElements first cs rest es) :
    (readElements (slots.map Slot.field) first acc cs >>=
        fun result => (closing ']' result.2).map (result.1, ·)) =
      (fillFirst slots acc (es.map Element.value)).map (·, rest) := by
  induction es generalizing slots first acc cs with
  | nil =>
      obtain ⟨hend, hclose⟩ := hat
      have hclosed : (closing ']' cs).map (acc, ·) = .ok (acc, rest) := by
        rw [hclose]
        rfl
      cases slots with
      | nil => exact hclosed
      | cons slot slots =>
          simp only [List.map_cons, readElements, hend]
          exact hclosed
  | cons e es ih =>
      obtain ⟨hmore, blanks, hnext⟩ := hat
      cases slots with
      | nil =>
          show (closing ']' cs).map _ = _
          rw [hmore]
          rfl
      | cons slot slots =>
          have hvalue := slot.reads e.value blanks _
            (Tree.ends_more (Or.inl rfl) e.after (Tree.elementParts es) rest)
          simp only [List.map_cons, readElements, hnext, elementOnward, bind, Except.bind, hvalue,
            fillFirst]
          cases slot.change e.value with
          | error => rfl
          | ok change => exact ih (atElements_more e.after es rest)

/-- An array is its elements up to the bracket. -/
theorem reader_bracket (blanks : Blanks) (cs : List Char) :
    schema.reader (blanks.1 ++ '[' :: cs) =
      (readElements schema.fields true schema.default cs >>= fun result =>
        (closing ']' result.2).map (result.1, ·)) := by
  rw [reader, skipBlanks_append, skipBlanks_cons (by decide)]
  simp only [bind, Except.bind]
  cases readElements schema.fields true schema.default cs with
  | error => rfl
  | ok result =>
      simp only
      cases closing ']' result.2 <;> rfl

/-- What an array makes of the structure. -/
theorem reader_array (hslots : schema.fields = slots.map Slot.field) (gap blanks : Blanks)
    (es : List (Element Tree)) :
    schema.reader (blanks.1 ++ ((Tree.array gap es).spelled ++ rest)) =
      (fillFirst slots schema.default (es.map Element.value)).map (·, rest) := by
  simp only [Tree.spelled, List.cons_append, List.append_assoc, List.nil_append, reader_bracket,
    hslots]
  exact readElements_spelled es (atElements_first gap es rest)

end Elements

end Schema

end Demarcation.Json
