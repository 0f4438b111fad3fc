/-
The spelling of JSON values.

A `Tree` is a value as it stands in a text: with its blanks, with each character of a
string as it is escaped, with each number as it is written, with the members of its
objects in their order and as often as they occur.  `Tree.spelled` is the text itself.
The grammar of JSON is in these types, and the scanners are compared with it.

A string or a bracketed value ends by itself.  A number does not: it ends where the
next character can not prolong it, and so what is said of a value is said of a value
with such a rest of the text behind it (`Ends`).
-/
import Demarcation.Json.Skip
import Demarcation.Json.Writer

namespace Demarcation.Json

open Text (hexDigit hexDigit? digit? scanDigits ofDigits)

/-! ## Blanks -/

/-- Blanks between the parts of a text. -/
abbrev Blanks := {cs : List Char // ∀ c ∈ cs, isBlank c}

instance : EmptyCollection Blanks := ⟨[], nofun⟩

@[simp] theorem blanks_empty : (∅ : Blanks).1 = [] := rfl

@[simp] theorem skipBlanks_append (blanks : Blanks) (cs : List Char) :
    skipBlanks (blanks.1 ++ cs) = skipBlanks cs :=
  List.dropWhile_append_of_pos blanks.2

@[simp] theorem skipBlanks_self (blanks : Blanks) : skipBlanks blanks.1 = [] := by
  have h := skipBlanks_append blanks []
  rwa [List.append_nil] at h

theorem skipBlanks_cons {c : Char} (hc : isBlank c = false) (cs : List Char) :
    skipBlanks (c :: cs) = c :: cs :=
  List.dropWhile_cons_of_neg (by simp [hc])

@[simp] theorem skipColon_append (blanks : Blanks) (rest : List Char) :
    skipColon (blanks.1 ++ ':' :: rest) = some rest := by
  rw [skipColon, skipBlanks_append]
  rfl

/-! ## Strings -/

/-- A hexadecimal digit, in either case. -/
structure HexDigit where
  value : Fin 16
  upper : Bool

def HexDigit.spelled (d : HexDigit) : Char :=
  if d.upper then (hexDigit d.value).toUpper else hexDigit d.value

theorem HexDigit.hexDigit?_spelled (d : HexDigit) : hexDigit? d.spelled = some d.value.1 := by
  have hall : ∀ (v : Fin 16) (u : Bool), hexDigit? (HexDigit.mk v u).spelled = some v.1 := by
    decide
  exact hall d.value d.upper

/-- The four digits of a `\u` escape. -/
structure Quad where
  first : HexDigit
  second : HexDigit
  third : HexDigit
  fourth : HexDigit

namespace Quad

def value (q : Quad) : Nat :=
  ((q.first.value.1 * 16 + q.second.value.1) * 16 + q.third.value.1) * 16 + q.fourth.value.1

def spelled (q : Quad) : List Char :=
  [q.first.spelled, q.second.spelled, q.third.spelled, q.fourth.spelled]

theorem next?_spelled (q : Quad) (rest : List Char) :
    StringUnit.next? ('\\' :: 'u' :: (q.spelled ++ rest)) = some (some (.code q.value), rest) := by
  show (code? _ _ _ _).map _ = _
  simp only [code?, HexDigit.hexDigit?_spelled]
  exact rfl

end Quad

/-- The letters of the short escapes, with the characters that they stand for. -/
def shortEscapes : List (Char × Char) :=
  [('"', '"'), ('\\', '\\'), ('/', '/'), ('b', '\x08'), ('f', '\x0c'), ('n', '\n'), ('r', '\r'),
    ('t', '\t')]

/-- One character of a string, as it is written. -/
inductive Piece where
  /-- A character that stands for itself. -/
  | plain (c : Char) (visible : 0x20 ≤ c.toNat) (noQuote : c ≠ '"') (noEscape : c ≠ '\\')
  | short (letter c : Char) (known : (letter, c) ∈ shortEscapes)
  /-- A `\u` escape of a character of the basic plane. -/
  | code (digits : Quad) (whole : ¬ StringUnit.opensPair digits.value ∧
      ¬ StringUnit.closesPair digits.value)
  /-- Two `\u` escapes for a character beyond the basic plane. -/
  | pair (high low : Quad) (opens : StringUnit.opensPair high.value)
      (closes : StringUnit.closesPair low.value)

namespace Piece

/-- The character that is meant. -/
def char : Piece → Char
  | plain c .. => c
  | short _ c _ => c
  | code digits _ => Char.ofNat digits.value
  | pair high low .. =>
      Char.ofNat (0x10000 + (high.value - 0xD800) * 0x400 + (low.value - 0xDC00))

def spelled : Piece → List Char
  | plain c .. => [c]
  | short letter .. => ['\\', letter]
  | code digits _ => '\\' :: 'u' :: digits.spelled
  | pair high low .. => '\\' :: 'u' :: high.spelled ++ '\\' :: 'u' :: low.spelled

/-- What the scanner makes of it. -/
def units : Piece → List StringUnit
  | plain c .. => [.char c]
  | short _ c _ => [.char c]
  | code digits _ => [.code digits.value]
  | pair high low .. => [.code high.value, .code low.value]

end Piece

namespace StringUnit

theorem scan_of_next? {cs rest : List Char} {u : StringUnit} (h : next? cs = some (some u, rest)) :
    scan cs = (scan rest).map fun (us, rest) => (u :: us, rest) := by
  rw [scan]
  split
  · simp_all
  · simp_all
  · simp_all

theorem scan_quote (rest : List Char) : scan ('"' :: rest) = some ([], rest) := by
  rw [scan]
  rfl

theorem next?_plain {c : Char} (hvisible : 0x20 ≤ c.toNat) (hquote : c ≠ '"') (hescape : c ≠ '\\')
    (rest : List Char) : next? (c :: rest) = some (some (char c), rest) := by
  have hshown : ¬ (c.toNat < 0x20 ∨ c = '\\') := by
    rintro (hlow | rfl)
    · omega
    · exact hescape rfl
  unfold next?
  split
  · simp_all
  · simp_all
  · simp_all
  · simp_all
  · simp_all

theorem next?_short {letter c : Char} (hknown : (letter, c) ∈ shortEscapes) (rest : List Char) :
    next? ('\\' :: letter :: rest) = some (some (char c), rest) := by
  simp only [shortEscapes, List.mem_cons, Prod.mk.injEq, List.not_mem_nil, or_false] at hknown
  rcases hknown with ⟨rfl, rfl⟩ | ⟨rfl, rfl⟩ | ⟨rfl, rfl⟩ | ⟨rfl, rfl⟩ | ⟨rfl, rfl⟩ | ⟨rfl, rfl⟩ |
    ⟨rfl, rfl⟩ | ⟨rfl, rfl⟩ <;> rfl

/-- The scanner takes a piece for its units. -/
theorem scan_piece (p : Piece) (rest : List Char) :
    scan (p.spelled ++ rest) = (scan rest).map fun (us, rest) => (p.units ++ us, rest) := by
  cases p with
  | plain c hvisible hquote hescape =>
      exact scan_of_next? (next?_plain hvisible hquote hescape rest)
  | short letter c hknown => exact scan_of_next? (next?_short hknown rest)
  | code digits => exact scan_of_next? (digits.next?_spelled rest)
  | pair high low =>
      have hlow := scan_of_next? (low.next?_spelled rest)
      have hhigh := scan_of_next? (high.next?_spelled ('\\' :: 'u' :: (low.spelled ++ rest)))
      rw [hlow, Option.map_map] at hhigh
      simp only [Piece.spelled, List.cons_append, List.append_assoc]
      exact hhigh

/-- The units of a piece are its character. -/
theorem text?_piece (p : Piece) (us : List StringUnit) :
    text? (p.units ++ us) = (text? us).map (p.char :: ·) := by
  cases p with
  | plain | short => rfl
  | code digits hwhole =>
      show text? (code digits.value :: us) = _
      rw [text?.eq_def]
      simp only [if_neg hwhole.1, if_neg hwhole.2]
      rfl
  | pair high low hopens hcloses =>
      show text? (code high.value :: code low.value :: us) = _
      rw [text?.eq_def]
      simp only [if_pos hopens, if_pos hcloses]
      rfl

end StringUnit

/-- A string as it is written. -/
structure Literal where
  pieces : List Piece

namespace Literal

/-- The text that is meant. -/
def text (l : Literal) : String := String.ofList (l.pieces.map Piece.char)

/-- The string after its opening quote. -/
def opened (l : Literal) : List Char := l.pieces.flatMap Piece.spelled ++ ['"']

def spelled (l : Literal) : List Char := '"' :: l.opened

theorem scan_opened (l : Literal) (rest : List Char) :
    StringUnit.scan (l.opened ++ rest) = some (l.pieces.flatMap Piece.units, rest) := by
  obtain ⟨pieces⟩ := l
  induction pieces with
  | nil => exact StringUnit.scan_quote rest
  | cons p pieces ih =>
      simp only [opened, List.flatMap_cons, List.append_assoc, StringUnit.scan_piece] at ih ⊢
      rw [ih]
      rfl

theorem text?_units (l : Literal) :
    StringUnit.text? (l.pieces.flatMap Piece.units) = some (l.pieces.map Piece.char) := by
  obtain ⟨pieces⟩ := l
  induction pieces with
  | nil => rfl
  | cons p pieces ih =>
      rw [List.flatMap_cons, StringUnit.text?_piece, ih]
      rfl

@[simp] theorem readText_opened (l : Literal) (rest : List Char) :
    readText (l.opened ++ rest) = some (l.text, rest) := by
  simp only [readText, l.scan_opened, l.text?_units, Option.bind_eq_bind, Option.bind_some]
  rfl

@[simp] theorem skipText_opened (l : Literal) (rest : List Char) :
    skipText (l.opened ++ rest) = some rest := by
  rw [skipText, l.scan_opened]
  rfl

end Literal

/-! ## Numbers -/

/-- One or more decimal digits. -/
structure Digits where
  first : Fin 10
  others : List (Fin 10)

namespace Digits

def values (ds : Digits) : List Nat := (ds.first :: ds.others).map Fin.val

def spelled (ds : Digits) : List Char := (ds.first :: ds.others).map (Nat.digitChar ·.1)

end Digits

/-- The exponent of a number: the case of its mark, its sign if it has one, and its
digits. -/
structure Exponent where
  upper : Bool
  sign : Option Bool
  digits : Digits

def Exponent.spelled (e : Exponent) : List Char :=
  (if e.upper then 'E' else 'e') ::
    (e.sign.elim [] fun negative => [if negative then '-' else '+']) ++ e.digits.spelled

/-- A number as it is written.  No further digit follows a leading zero. -/
structure Figure where
  negative : Bool
  whole : Digits
  fraction : Option Digits
  exponent : Option Exponent
  noLeadingZero : whole.first = 0 → whole.others = []

namespace Figure

/-- The number after its sign. -/
def unsigned (n : Figure) : List Char :=
  n.whole.spelled ++ ((n.fraction.elim [] ('.' :: ·.spelled)) ++ n.exponent.elim [] (·.spelled))

def spelled (n : Figure) : List Char := if n.negative then '-' :: n.unsigned else n.unsigned

/-- Its digits. -/
def numeral (n : Figure) : Numeral where
  negative := n.negative
  whole := n.whole.values
  fraction := n.fraction.elim [] (·.values)
  exponent := n.exponent.map fun e => (decide (e.sign = some true), e.digits.values)

end Figure

/-- What follows does not prolong a number. -/
def Ends (rest : List Char) : Prop :=
  ∀ c ∈ rest.head?, digit? c = none ∧ c ≠ '.' ∧ c ≠ 'e' ∧ c ≠ 'E'

theorem ends_cons {c : Char} (h : digit? c = none ∧ c ≠ '.' ∧ c ≠ 'e' ∧ c ≠ 'E')
    (rest : List Char) : Ends (c :: rest) := by
  intro d hd
  rw [← Option.some.inj hd]
  exact h

@[simp] theorem ends_comma (rest : List Char) : Ends (',' :: rest) := ends_cons (by decide) rest

@[simp] theorem ends_bracket (rest : List Char) : Ends (']' :: rest) := ends_cons (by decide) rest

@[simp] theorem ends_brace (rest : List Char) : Ends ('}' :: rest) := ends_cons (by decide) rest

theorem Ends.blanks {rest : List Char} (h : Ends rest) (blanks : Blanks) :
    Ends (blanks.1 ++ rest) := by
  obtain ⟨cs, hblank⟩ := blanks
  cases cs with
  | nil => exact h
  | cons c cs =>
      have hc := hblank c List.mem_cons_self
      simp only [isBlank, Bool.or_eq_true, decide_eq_true_eq] at hc
      refine ends_cons ?_ _
      rcases hc with ((rfl | rfl) | rfl) | rfl <;> decide

theorem digit?_digitChar : ∀ d : Fin 10, digit? (Nat.digitChar d.1) = some d.1 := by decide

theorem Digits.scanDigits_spelled (ds : Digits) {rest : List Char}
    (hrest : ∀ c ∈ rest.head?, digit? c = none) :
    scanDigits (ds.spelled ++ rest) = (ds.values, rest) := by
  have hstop : scanDigits rest = ([], rest) := by
    cases rest with
    | nil => rfl
    | cons c rest => rw [scanDigits, hrest c rfl]
  have hmany : ∀ fs : List (Fin 10),
      scanDigits (fs.map (Nat.digitChar ·.1) ++ rest) = (fs.map Fin.val, rest) := by
    intro fs
    induction fs with
    | nil => exact hstop
    | cons f fs ih => simp only [List.map_cons, List.cons_append, scanDigits, digit?_digitChar, ih]
  exact hmany _

namespace Numeral

variable {rest : List Char}

theorem scanWhole_spelled (n : Figure) (hrest : ∀ c ∈ rest.head?, digit? c = none) :
    scanWhole (n.whole.spelled ++ rest) = some (n.whole.values, rest) := by
  obtain ⟨-, ⟨first, others⟩, -, -, hzero⟩ := n
  rw [scanWhole, Digits.scanDigits_spelled _ hrest]
  by_cases hfirst : first = 0
  · obtain rfl : others = [] := hzero hfirst
    obtain rfl : first = 0 := hfirst
    rfl
  · have hpos : first.1 ≠ 0 := fun h => hfirst (Fin.ext h)
    simp only [Digits.values, List.map_cons]
    split
    · simp_all
    · simp_all
    · simp_all

theorem scanFraction_spelled (fraction : Option Digits) (hpoint : rest.head? ≠ some '.')
    (hrest : ∀ c ∈ rest.head?, digit? c = none) :
    scanFraction ((fraction.elim [] ('.' :: ·.spelled)) ++ rest) =
      some (fraction.elim [] (·.values), rest) := by
  cases fraction with
  | none =>
      show scanFraction rest = some ([], rest)
      unfold scanFraction
      split
      · simp_all
      · rfl
  | some ds =>
      show scanFraction ('.' :: (ds.spelled ++ rest)) = _
      rw [scanFraction, ds.scanDigits_spelled hrest]
      rfl

theorem scanExponentDigits_spelled (negative : Bool) (ds : Digits)
    (hrest : ∀ c ∈ rest.head?, digit? c = none) :
    scanExponentDigits negative (ds.spelled ++ rest) = some (some (negative, ds.values), rest) := by
  rw [scanExponentDigits, ds.scanDigits_spelled hrest]
  rfl

theorem scanExponent_spelled (exponent : Option Exponent) (hrest : Ends rest) :
    scanExponent ((exponent.elim [] (·.spelled)) ++ rest) =
      some (exponent.map fun e => (decide (e.sign = some true), e.digits.values), rest) := by
  have hdigits : ∀ c ∈ rest.head?, digit? c = none := fun c hc => (hrest c hc).1
  cases exponent with
  | none =>
      cases rest with
      | nil => rfl
      | cons c rest =>
          obtain ⟨-, -, he, hE⟩ := hrest c rfl
          show scanExponent (c :: rest) = _
          rw [scanExponent.eq_def]
          simp only [if_neg (not_or.mpr ⟨he, hE⟩)]
          rfl
  | some e =>
      obtain ⟨upper, sign, ds⟩ := e
      have hmark : (if upper then 'E' else 'e') = 'e' ∨ (if upper then 'E' else 'e') = 'E' := by
        cases upper <;> simp
      simp only [Option.elim_some, Exponent.spelled, List.cons_append, List.append_assoc,
        scanExponent, if_pos hmark]
      rcases sign with _ | _ | _
      · have hfirst : ∀ d : Fin 10, Nat.digitChar d.1 ≠ '+' ∧ Nat.digitChar d.1 ≠ '-' := by decide
        obtain ⟨hplus, hminus⟩ := hfirst ds.first
        have hscan := scanExponentDigits_spelled false ds hdigits
        simp only [Option.elim_none, List.nil_append]
        split
        · rename_i heq
          exact absurd (List.cons.inj heq).1 hplus
        · rename_i heq
          exact absurd (List.cons.inj heq).1 hminus
        · exact hscan
      · exact scanExponentDigits_spelled false ds hdigits
      · exact scanExponentDigits_spelled true ds hdigits

/-- A number is cut into its digits, whatever ends it. -/
theorem scan_spelled (n : Figure) (hrest : Ends rest) :
    scan (n.spelled ++ rest) = some (n.numeral, rest) := by
  have hexponent : ∀ c ∈ ((n.exponent.elim [] (·.spelled)) ++ rest).head?,
      digit? c = none ∧ c ≠ '.' := by
    intro c hc
    cases hn : n.exponent with
    | none =>
        rw [hn] at hc
        exact ⟨(hrest c hc).1, (hrest c hc).2.1⟩
    | some e =>
        rw [hn] at hc
        obtain rfl : (if e.upper then 'E' else 'e') = c := Option.some.inj hc
        cases e.upper <;> decide
  have hfraction : ∀ c ∈ ((n.fraction.elim [] ('.' :: ·.spelled)) ++
      ((n.exponent.elim [] (·.spelled)) ++ rest)).head?, digit? c = none := by
    intro c hc
    cases hn : n.fraction with
    | none =>
        rw [hn] at hc
        exact (hexponent c hc).1
    | some ds =>
        rw [hn] at hc
        obtain rfl : '.' = c := Option.some.inj hc
        decide
  have hmagnitude : ∀ negative, scanMagnitude negative (n.unsigned ++ rest) =
      some (⟨negative, n.numeral.whole, n.numeral.fraction, n.numeral.exponent⟩, rest) := by
    intro negative
    have hpoint : ((n.exponent.elim [] (·.spelled)) ++ rest).head? ≠ some '.' :=
      fun h => (hexponent _ h).2 rfl
    simp only [scanMagnitude, Figure.unsigned, List.append_assoc, scanWhole_spelled n hfraction,
      scanFraction_spelled n.fraction hpoint fun c hc => (hexponent c hc).1,
      scanExponent_spelled n.exponent hrest, Option.bind_eq_bind, Option.bind_some]
    rfl
  have hsign : ∀ d : Fin 10, Nat.digitChar d.1 ≠ '-' := by decide
  obtain ⟨negative, whole, fraction, exponent, hzero⟩ := n
  cases negative with
  | true => exact hmagnitude true
  | false =>
      show scan (Figure.unsigned _ ++ rest) = _
      unfold scan
      split
      · rename_i heq
        exact absurd (List.cons.inj heq).1 (hsign whole.first)
      · exact hmagnitude false

end Numeral

/-- A number starts with a character that nothing else starts with. -/
theorem Figure.spelled_eq_cons (n : Figure) :
    ∃ c cs, n.spelled = c :: cs ∧ isBlank c = false ∧
      c ∉ ['n', 't', 'f', '"', '[', '{', ',', ']', '}'] := by
  have hdigits : ∀ d : Fin 10, isBlank (Nat.digitChar d.1) = false ∧
      Nat.digitChar d.1 ∉ ['n', 't', 'f', '"', '[', '{', ',', ']', '}'] := by decide
  obtain ⟨negative, whole, fraction, exponent, hzero⟩ := n
  cases negative with
  | true => exact ⟨_, _, rfl, by decide⟩
  | false => exact ⟨_, _, rfl, hdigits whole.first⟩

/-! ## Values -/

/-- An element of an array, with the blanks around it. -/
structure Element (α : Type) where
  before : Blanks
  value : α
  after : Blanks

/-- A member of an object, with the blanks around its parts. -/
structure Entry (α : Type) where
  before : Blanks
  name : Literal
  beforeColon : Blanks
  afterColon : Blanks
  value : α
  after : Blanks

/-- A value as it is written. -/
inductive Tree where
  | null
  | flag (b : Bool)
  | number (n : Figure)
  | text (l : Literal)
  | array (gap : Blanks) (elements : List (Element Tree))
  | object (gap : Blanks) (members : List (Entry Tree))

namespace Tree

mutual

/-- The text of a value. -/
def spelled : Tree → List Char
  | null => ['n', 'u', 'l', 'l']
  | flag b => writeFlag b
  | number n => n.spelled
  | text l => l.spelled
  | array gap elements => '[' :: (gap.1 ++ (writeParts (elementParts elements) ++ [']']))
  | object gap members => '{' :: (gap.1 ++ (writeParts (memberParts members) ++ ['}']))

/-- The texts between the commas of an array. -/
def elementParts : List (Element Tree) → List (List Char)
  | [] => []
  | ⟨before, value, after⟩ :: elements =>
      (before.1 ++ (value.spelled ++ after.1)) :: elementParts elements

/-- The texts between the commas of an object. -/
def memberParts : List (Entry Tree) → List (List Char)
  | [] => []
  | ⟨before, name, beforeColon, afterColon, value, after⟩ :: members =>
      (before.1 ++ (name.spelled ++ (beforeColon.1 ++ ':' :: (afterColon.1 ++
        (value.spelled ++ after.1))))) :: memberParts members

end

/-! ## Passing over values -/

/-- The parts after the first one, with their commas. -/
def moreParts : List (List Char) → List Char
  | [] => []
  | part :: parts => ',' :: (part ++ moreParts parts)

theorem writeParts_cons (part : List Char) (parts : List (List Char)) :
    writeParts (part :: parts) = part ++ moreParts parts := by
  induction parts generalizing part with
  | nil => simp [writeParts, moreParts]
  | cons next parts ih =>
      rw [writeParts, List.intercalate_cons_cons, moreParts, ← ih next]
      simp [writeParts]

theorem length_moreParts {parts : List (List Char)} (h : parts ≠ []) :
    (moreParts parts).length = (writeParts parts).length + 1 := by
  cases parts with
  | nil => exact absurd rfl h
  | cons part parts => rw [writeParts_cons, moreParts, List.length_cons]

/-- After a value within brackets comes what ends a number. -/
theorem ends_more {close : Char} (hclose : close = ']' ∨ close = '}') (after : Blanks)
    (parts : List (List Char)) (rest : List Char) :
    Ends (after.1 ++ (moreParts parts ++ close :: rest)) := by
  refine Ends.blanks ?_ after
  cases parts with
  | nil =>
      rcases hclose with rfl | rfl
      · exact ends_bracket rest
      · exact ends_brace rest
  | cons part parts => exact ends_comma _

/-- A value starts with a character that is no blank, no comma and no closing bracket. -/
theorem spelled_eq_cons (t : Tree) :
    ∃ c cs, t.spelled = c :: cs ∧ isBlank c = false ∧ c ∉ [',', ']', '}'] := by
  cases t with
  | null => exact ⟨_, _, rfl, by decide⟩
  | flag b => cases b <;> exact ⟨_, _, rfl, by decide⟩
  | text l => exact ⟨_, _, rfl, by decide⟩
  | array gap elements => exact ⟨'[', _, rfl, by decide⟩
  | object gap members => exact ⟨'{', _, rfl, by decide⟩
  | number n =>
      obtain ⟨c, cs, hspelled, hblank, hc⟩ := n.spelled_eq_cons
      exact ⟨c, cs, hspelled, hblank, by simp_all⟩

section Skip

variable {fuel : Nat} {cs rest : List Char} {parts : List (List Char)}

theorem skipValueWith_append (blanks : Blanks) (cs : List Char) :
    skipValueWith fuel (blanks.1 ++ cs) = skipValueWith fuel cs := by
  cases fuel with
  | zero => rfl
  | succ fuel => simp only [skipValueWith, skipBlanks_append]

theorem skipElementsWith_append (blanks : Blanks) (cs : List Char) :
    skipElementsWith fuel (blanks.1 ++ cs) = skipElementsWith fuel cs := by
  cases fuel with
  | zero => rfl
  | succ fuel => simp only [skipElementsWith, skipValueWith_append]

theorem skipMembersWith_append (blanks : Blanks) (cs : List Char) :
    skipMembersWith fuel (blanks.1 ++ cs) = skipMembersWith fuel cs := by
  cases fuel with
  | zero => rfl
  | succ fuel => simp only [skipMembersWith, skipName, skipBlanks_append]

theorem skipValueWith_number (n : Figure) :
    skipValueWith (fuel + 1) (n.spelled ++ rest) =
      (Numeral.scan (n.spelled ++ rest)).map Prod.snd := by
  obtain ⟨c, cs, hspelled, hblank, hc⟩ := n.spelled_eq_cons
  rw [hspelled, List.cons_append, skipValueWith, skipBlanks_cons hblank]
  split <;> simp_all

theorem skipValueWith_array (gap : Blanks)
    (hskip : parts ≠ [] → (skipBlanks (writeParts parts ++ ']' :: rest)).head? ≠ some ']' ∧
      skipElementsWith fuel (writeParts parts ++ ']' :: rest) = some rest) :
    skipValueWith (fuel + 1) ('[' :: (gap.1 ++ (writeParts parts ++ ']' :: rest))) = some rest := by
  rw [skipValueWith, skipBlanks_cons (by decide)]
  simp only [skipBlanks_append, skipElementsWith_append]
  cases parts with
  | nil => rfl
  | cons part parts =>
      obtain ⟨hstart, hskip⟩ := hskip (List.cons_ne_nil _ _)
      split
      · rename_i heq
        rw [heq] at hstart
        exact absurd rfl hstart
      · exact hskip

theorem skipValueWith_object (gap : Blanks)
    (hskip : parts ≠ [] → (skipBlanks (writeParts parts ++ '}' :: rest)).head? ≠ some '}' ∧
      skipMembersWith fuel (writeParts parts ++ '}' :: rest) = some rest) :
    skipValueWith (fuel + 1) ('{' :: (gap.1 ++ (writeParts parts ++ '}' :: rest))) = some rest := by
  rw [skipValueWith, skipBlanks_cons (by decide)]
  simp only [skipBlanks_append, skipMembersWith_append]
  cases parts with
  | nil => rfl
  | cons part parts =>
      obtain ⟨hstart, hskip⟩ := hskip (List.cons_ne_nil _ _)
      split
      · rename_i heq
        rw [heq] at hstart
        exact absurd rfl hstart
      · exact hskip

/-- One element, and then the others. -/
theorem skipElementsWith_succ {after : Blanks}
    (hvalue : skipValueWith fuel cs = some (after.1 ++ (moreParts parts ++ ']' :: rest)))
    (hmore : parts ≠ [] → skipElementsWith fuel (writeParts parts ++ ']' :: rest) = some rest) :
    skipElementsWith (fuel + 1) cs = some rest := by
  rw [skipElementsWith, hvalue]
  simp only [skipBlanks_append]
  cases parts with
  | nil => rfl
  | cons part parts =>
      rw [writeParts_cons] at hmore
      exact hmore (List.cons_ne_nil _ _)

/-- One member, and then the others. -/
theorem skipMembersWith_succ (name : Literal) (beforeColon afterColon : Blanks) {after : Blanks}
    (hvalue : skipValueWith fuel cs = some (after.1 ++ (moreParts parts ++ '}' :: rest)))
    (hmore : parts ≠ [] → skipMembersWith fuel (writeParts parts ++ '}' :: rest) = some rest) :
    skipMembersWith (fuel + 1)
      (name.spelled ++ (beforeColon.1 ++ ':' :: (afterColon.1 ++ cs))) = some rest := by
  have hname : skipName (name.spelled ++ (beforeColon.1 ++ ':' :: (afterColon.1 ++ cs))) =
      some (beforeColon.1 ++ ':' :: (afterColon.1 ++ cs)) := name.skipText_opened _
  rw [skipMembersWith, hname, Option.bind_some, skipColon_append]
  simp only [skipValueWith_append, hvalue, skipBlanks_append]
  cases parts with
  | nil => rfl
  | cons part parts =>
      rw [writeParts_cons] at hmore
      exact hmore (List.cons_ne_nil _ _)

end Skip

theorem head?_elementParts (es : List (Element Tree)) {close : Char} (hclose : close ∈ [']', '}'])
    (rest : List Char) (hne : elementParts es ≠ []) :
    (skipBlanks (writeParts (elementParts es) ++ rest)).head? ≠ some close := by
  match es, hne with
  | ⟨before, value, after⟩ :: es, _ =>
      obtain ⟨c, cs, hspelled, hblank, hc⟩ := value.spelled_eq_cons
      simp only [elementParts, writeParts_cons, List.append_assoc, skipBlanks_append, hspelled,
        List.cons_append, skipBlanks_cons hblank, List.head?_cons]
      rintro hsame
      obtain rfl := Option.some.inj hsame
      exact hc (List.mem_cons_of_mem _ hclose)

theorem head?_memberParts (ms : List (Entry Tree)) (rest : List Char)
    (hne : memberParts ms ≠ []) :
    (skipBlanks (writeParts (memberParts ms) ++ rest)).head? = some '"' := by
  match ms, hne with
  | ⟨before, name, beforeColon, afterColon, value, after⟩ :: ms, _ =>
      simp only [memberParts, writeParts_cons, List.append_assoc, skipBlanks_append]
      rfl

mutual

/-- With fuel for its length, a value is passed over. -/
theorem skipValueWith_spelled : ∀ (t : Tree) {fuel : Nat} {rest : List Char}, Ends rest →
    2 * t.spelled.length < fuel → skipValueWith fuel (t.spelled ++ rest) = some rest
  | _, 0, _, _, hfuel => absurd hfuel (Nat.not_lt_zero _)
  | null, fuel + 1, rest, _, _ => rfl
  | flag true, fuel + 1, rest, _, _ => rfl
  | flag false, fuel + 1, rest, _, _ => rfl
  | number n, fuel + 1, rest, hrest, _ => by
      show skipValueWith (fuel + 1) (n.spelled ++ rest) = _
      rw [skipValueWith_number, Numeral.scan_spelled n hrest]
      rfl
  | text l, fuel + 1, rest, _, _ => l.skipText_opened rest
  | array gap es, fuel + 1, rest, _, hfuel => by
      simp only [spelled, List.length_cons, List.length_append] at hfuel
      simp only [spelled, List.cons_append, List.append_assoc, List.nil_append]
      refine skipValueWith_array gap ?_
      intro hne
      exact ⟨head?_elementParts es (by decide) _ hne, skipElementsWith_spelled es hne (by omega)⟩
  | object gap ms, fuel + 1, rest, _, hfuel => by
      simp only [spelled, List.length_cons, List.length_append] at hfuel
      simp only [spelled, List.cons_append, List.append_assoc, List.nil_append]
      refine skipValueWith_object gap ?_
      intro hne
      rw [head?_memberParts ms _ hne]
      exact ⟨by decide, skipMembersWith_spelled ms hne (by omega)⟩

/-- The elements of an array are passed over together with its bracket. -/
theorem skipElementsWith_spelled : ∀ (es : List (Element Tree)) {fuel : Nat} {rest : List Char},
    elementParts es ≠ [] → 2 * (writeParts (elementParts es)).length + 1 < fuel →
    skipElementsWith fuel (writeParts (elementParts es) ++ ']' :: rest) = some rest
  | [], _, _, hne, _ => absurd rfl hne
  | _ :: _, 0, _, _, hfuel => absurd hfuel (Nat.not_lt_zero _)
  | ⟨before, value, after⟩ :: es, fuel + 1, rest, _, hfuel => by
      simp only [elementParts, writeParts_cons, List.length_append] at hfuel
      simp only [elementParts, writeParts_cons, List.append_assoc, skipElementsWith_append]
      refine skipElementsWith_succ
        (skipValueWith_spelled value (ends_more (Or.inl rfl) after _ rest) (by omega)) ?_
      intro hne
      have hlength := length_moreParts hne
      exact skipElementsWith_spelled es hne (by omega)

/-- The members of an object are passed over together with its bracket. -/
theorem skipMembersWith_spelled : ∀ (ms : List (Entry Tree)) {fuel : Nat} {rest : List Char},
    memberParts ms ≠ [] → 2 * (writeParts (memberParts ms)).length + 1 < fuel →
    skipMembersWith fuel (writeParts (memberParts ms) ++ '}' :: rest) = some rest
  | [], _, _, hne, _ => absurd rfl hne
  | _ :: _, 0, _, _, hfuel => absurd hfuel (Nat.not_lt_zero _)
  | ⟨before, name, beforeColon, afterColon, value, after⟩ :: ms, fuel + 1, rest, _, hfuel => by
      simp only [memberParts, writeParts_cons, List.length_append, List.length_cons] at hfuel
      simp only [memberParts, writeParts_cons, List.append_assoc, List.cons_append,
        skipMembersWith_append]
      refine skipMembersWith_succ name beforeColon afterColon
        (skipValueWith_spelled value (ends_more (Or.inr rfl) after _ rest) (by omega)) ?_
      intro hne
      have hlength := length_moreParts hne
      exact skipMembersWith_spelled ms hne (by omega)

end

/-- A value is passed over up to what follows it. -/
theorem skipValue_spelled (t : Tree) (blanks : Blanks) {rest : List Char} (hrest : Ends rest) :
    skipValue (blanks.1 ++ (t.spelled ++ rest)) = some rest := by
  rw [skipValue, skipValueWith_append]
  refine skipValueWith_spelled t hrest ?_
  rw [List.length_append, List.length_append]
  omega

end Tree

end Demarcation.Json
