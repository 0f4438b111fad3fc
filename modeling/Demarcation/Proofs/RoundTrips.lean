/-
Specifications that are written and read back.

What is written of a specification is the spelling of a tree: each character of the name
of the unit is written as a piece that means it, whether it needs an escape or not, and
nothing stands between the members.  So reading it back is what a document of these
members declares, which is the specification.
-/
import Demarcation.Proofs.Documents

namespace Demarcation

namespace Json

open Text (hexDigit)

/-! ## What is written -/

/-- A character is written as a piece that means it. -/
theorem exists_piece (c : Char) : ∃ p : Piece, p.spelled = escape c ∧ p.char = c := by
  unfold escape
  split
  case h_8 hquote hescape _ _ _ _ _ =>
    by_cases hlow : c.toNat < 0x20
    · let digits : Quad := ⟨⟨0, false⟩, ⟨0, false⟩, ⟨⟨c.toNat / 16, by omega⟩, false⟩,
        ⟨⟨c.toNat % 16, by omega⟩, false⟩⟩
      have hvalue : digits.value = c.toNat := by
        show ((0 * 16 + 0) * 16 + c.toNat / 16) * 16 + c.toNat % 16 = c.toNat
        omega
      have hwhole : ¬ StringUnit.opensPair digits.value ∧ ¬ StringUnit.closesPair digits.value := by
        rw [hvalue, StringUnit.opensPair, StringUnit.closesPair]
        omega
      refine ⟨.code digits hwhole, ?_, ?_⟩
      · rw [if_pos hlow]
        rfl
      · show Char.ofNat digits.value = c
        rw [hvalue, Char.ofNat_toNat]
    · rw [if_neg hlow]
      exact ⟨.plain c (Nat.le_of_not_lt hlow) hquote hescape, rfl, rfl⟩
  all_goals exact ⟨.short _ _ (by decide), rfl, rfl⟩

/-- A text is written as a string that means it. -/
theorem exists_literal (text : String) : ∃ l : Literal, l.spelled = quote text ∧ l.text = text := by
  have hpieces : ∀ cs : List Char, ∃ pieces : List Piece,
      pieces.flatMap Piece.spelled = cs.flatMap escape ∧ pieces.map Piece.char = cs := by
    intro cs
    induction cs with
    | nil => exact ⟨[], rfl, rfl⟩
    | cons c cs ih =>
        obtain ⟨p, hspelled, hchar⟩ := exists_piece c
        obtain ⟨pieces, hpieces, hchars⟩ := ih
        refine ⟨p :: pieces, ?_, ?_⟩
        · rw [List.flatMap_cons, List.flatMap_cons, hspelled, hpieces]
        · rw [List.map_cons, hchar, hchars]
  obtain ⟨pieces, hspelled, hchars⟩ := hpieces text.toList
  refine ⟨⟨pieces⟩, ?_, ?_⟩
  · rw [Literal.spelled, Literal.opened, hspelled]
    rfl
  · rw [Literal.text, hchars, String.ofList_toList]

/-- An object is written as the spelling of a tree. -/
theorem exists_object (members : List (String × Tree)) :
    ∃ entries : List (Entry Tree), entries.map Entry.pair = members ∧
      (Tree.object ∅ entries).spelled =
        writeObject (members.map fun m => (m.1, m.2.spelled)) := by
  have hentries : ∃ entries : List (Entry Tree), entries.map Entry.pair = members ∧
      Tree.memberParts entries = members.map fun m => writeMember (m.1, m.2.spelled) := by
    induction members with
    | nil => exact ⟨[], rfl, rfl⟩
    | cons m members ih =>
        obtain ⟨entries, hpairs, hparts⟩ := ih
        obtain ⟨name, hname, htext⟩ := exists_literal m.1
        refine ⟨⟨∅, name, ∅, ∅, m.2, ∅⟩ :: entries, ?_, ?_⟩
        · rw [List.map_cons, hpairs, Entry.pair, htext]
        · simp [Tree.memberParts, hparts, writeMember, hname]
  obtain ⟨entries, hpairs, hparts⟩ := hentries
  refine ⟨entries, hpairs, ?_⟩
  rw [Tree.spelled, hparts, writeObject, List.map_map]
  rfl

end Json

namespace WorkSpec

open Json

/-! ## Reading it back -/

/-- A mode is found again under its name. -/
theorem variant_of_lookup {α : Type} {names : List (String × α)} {name : String} {value : α}
    (h : names.lookup name = some value) : variant names name = .ok value := by
  rw [variant, h]

/-- What is written of a specification is read as that specification. -/
theorem ofJson_toJson (spec : WorkSpec) : ofJson spec.toJson = .ok spec := by
  obtain ⟨unit, hunit, hunitText⟩ := exists_literal spec.unit
  obtain ⟨cache, hcache, hcacheText⟩ := exists_literal spec.cacheMode.name
  obtain ⟨flush, hflush, hflushText⟩ := exists_literal spec.flushMode.name
  obtain ⟨entries, hpairs, hobject⟩ := exists_object [("unit", .text unit),
    ("read_only", .flag spec.readOnly), ("transactional", .flag spec.transactional),
    ("cache_mode", .text cache), ("flush_mode", .text flush)]
  have hwritten : spec.toJson = (Tree.object ∅ entries).alone ∅ ∅ := by
    rw [Tree.alone, hobject, toJson, ← hunit, ← hcache, ← hflush]
    simp [Tree.spelled]
  rw [hwritten]
  refine (Schema.readDocument_object fields_eq ∅ ∅ ∅ entries).trans ?_
  rw [hpairs]
  have hcacheMode : (Tree.text cache).asVariant CacheMode.names = .ok spec.cacheMode := by
    rw [Tree.asVariant, hcacheText]
    exact variant_of_lookup (CacheMode.lookup_name _)
  have hflushMode : (Tree.text flush).asVariant FlushMode.names = .ok spec.flushMode := by
    rw [Tree.asVariant, hflushText]
    exact variant_of_lookup (FlushMode.lookup_name _)
  simp [Schema.fill, slots, Slot.of, Field.of, hcacheMode, hflushMode, Tree.asText, Tree.asFlag,
    hunitText, Except.map, bind, Except.bind]

/-- A specification that is written and read back is the same, with the same session
options, and so is one that was read from a text before. -/
theorem survives_writing :
    (∀ spec : WorkSpec, ∃ back, ofJson spec.toJson = .ok back ∧ back = spec ∧
      back.sessionOptions = spec.sessionOptions) ∧
    ∀ (text : String) (spec : WorkSpec), ofJson text = .ok spec →
      ofJson spec.toJson = .ok spec := by
  refine ⟨?_, ?_⟩
  · intro spec
    exact ⟨spec, ofJson_toJson spec, rfl, rfl⟩
  · intro text spec _
    exact ofJson_toJson spec

/-- One from an array, with an escaped name and a mode as an object. -/
theorem survives_writing_escaped :
    ofJson "[\x22a\\u00e9\\n\x22, true, false, \x7b\x22get\x22: null\x7d]" =
        .ok ⟨"aé\n", true, false, .get, .auto⟩ ∧
      ofJson (toJson ⟨"aé\n", true, false, .get, .auto⟩) =
        .ok ⟨"aé\n", true, false, .get, .auto⟩ := by
  have hread : ofJson "[\x22a\\u00e9\\n\x22, true, false, \x7b\x22get\x22: null\x7d]" =
      .ok ⟨"aé\n", true, false, .get, .auto⟩ := by
    decide +kernel
  exact ⟨hread, survives_writing.2 _ _ hread⟩

end WorkSpec

end Demarcation
