import CodeGraph.Proofs.Json.RoundTrip
import CodeGraph.Typesense
import Mathlib.Data.List.Forall2

/-!
# Lines of JSON texts

A batch is sent as lines, each the compact text of a document.  Strings may hold any characters, but
no control character comes into a compact text, `Value.Plain.printable`.  So the newlines of the
body are those behind the documents, and every line gives back its document.
-/

set_option autoImplicit false

namespace CodeGraph.Json

/-! ## Compact texts have no control characters -/

def Printable (text : List Char) : Prop :=
  ∀ c ∈ text, 0x20 ≤ c.toNat

instance (text : List Char) : Decidable (Printable text) :=
  decidable_of_iff (text.all fun c => 0x20 ≤ c.toNat) (by simp [Printable])

theorem printable_cons {first : Char} {later : List Char} :
    Printable (first :: later) ↔ 0x20 ≤ first.toNat ∧ Printable later :=
  List.forall_mem_cons

theorem printable_append {first later : List Char} :
    Printable (first ++ later) ↔ Printable first ∧ Printable later :=
  List.forall_mem_append

theorem printable_flatMap {α : Type} {items : List α} {text : α → List Char}
    (printable : ∀ item ∈ items, Printable (text item)) : Printable (items.flatMap text) := by
  intro c member
  obtain ⟨item, isItem, inText⟩ := List.mem_flatMap.mp member
  exact printable item isItem c inText

theorem Printable.newline_not_mem {text : List Char} (printable : Printable text) : '\n' ∉ text :=
  fun member => absurd (printable '\n' member) (by decide)

theorem printable_hexDigit : ∀ value < 16, 0x20 ≤ (Text.hexDigit value).toNat := by
  decide

/-- A control character is escaped, and no escape has one in it. -/
theorem printable_escapedChar (c : Char) : Printable (escapedChar c) := by
  unfold escapedChar
  split
  case isTrue marked =>
    rcases marked with rfl | rfl <;> decide
  -- five controls have letters of their own
  iterate 5
    split
    · decide
  split
  case isTrue control =>
    have high := printable_hexDigit (c.toNat / 16) (by omega)
    have low := printable_hexDigit (c.toNat % 16) (by omega)
    simp [Printable, high, low]
  case isFalse visible =>
    exact printable_cons.mpr ⟨Nat.not_lt.mp visible, nofun⟩

theorem printable_quote (text : String) : Printable (quote text) := by
  rw [quote_eq, quoteTail, printable_cons, printable_append]
  exact ⟨by decide, printable_flatMap fun c _ => printable_escapedChar c, by decide⟩

theorem digit_bounds {c : Char} (digit : c.isDigit = true) : 48 ≤ c.toNat ∧ c.toNat ≤ 57 := by
  simp only [Char.isDigit, Bool.and_eq_true, decide_eq_true_eq] at digit
  exact ⟨digit.1, digit.2⟩

theorem printable_wholeText (value : Int) : Printable (wholeText value) := by
  have digits : Printable (Nat.toDigits 10 value.natAbs) := by
    intro c member
    have bounds := digit_bounds (Nat.isDigit_of_mem_toDigits (by omega) (by omega) member)
    omega
  unfold wholeText
  split
  case isTrue => exact printable_cons.mpr ⟨by decide, digits⟩
  case isFalse => exact digits

theorem printable_separated (isFirst : Bool) {texts : List (List Char)}
    (printable : ∀ text ∈ texts, Printable text) : Printable (separated isFirst texts) := by
  induction texts generalizing isFirst with
  | nil => exact nofun
  | cons first later inductionHypothesis =>
      obtain ⟨firstPrintable, laterPrintable⟩ := List.forall_mem_cons.mp printable
      have rest := printable_append.mpr
        ⟨firstPrintable, inductionHypothesis false laterPrintable⟩
      cases isFirst with
      | true => exact rest
      | false => exact printable_cons.mpr ⟨by decide, rest⟩

/-- However deep a string lies in a value, its control characters do not come into the text. -/
theorem Value.Plain.printable {depth : Nat} {value : Value} (plain : value.Plain depth) :
    Printable value.compact := by
  induction plain with
  | null => rw [compact]; decide
  | bool _ value => cases value <;> rw [compact] <;> decide
  | whole => rw [compact]; exact printable_wholeText _
  | text => rw [compact]; exact printable_quote _
  | array _ inductionHypothesis =>
      rw [compact, compactItems_eq, printable_cons, printable_append]
      refine ⟨by decide, printable_separated true ?_, by decide⟩
      exact List.forall_mem_map.mpr inductionHypothesis
  | object _ _ inductionHypothesis =>
      rw [compact, compactMembers_eq, printable_cons, printable_append]
      refine ⟨by decide, printable_separated true (List.forall_mem_map.mpr ?_), by decide⟩
      intro entry member
      rw [memberText, printable_append, printable_cons]
      exact ⟨printable_quote entry.1, by decide, inductionHypothesis entry member⟩

/-! ## Compact texts are not blank -/

theorem isBlank_of_isDigit {c : Char} (digit : c.isDigit = true) : Text.isBlank c = false := by
  have bounds := digit_bounds digit
  simp only [Text.isBlank, Text.blankRanges, List.any_cons, List.any_nil, Bool.or_eq_false_iff,
    Bool.and_eq_false_iff, decide_eq_false_iff_not, and_true]
  omega

theorem Value.Plain.exists_not_blank {depth : Nat} {value : Value} (plain : value.Plain depth) :
    ∃ c ∈ value.compact, Text.isBlank c = false := by
  have ofHead : ∀ {text : List Char} {first : Char} {later : List Char},
      text = first :: later → Text.isBlank first = false → ∃ c ∈ text, Text.isBlank c = false := by
    rintro _ first later rfl notBlank
    exact ⟨first, List.mem_cons_self, notBlank⟩
  cases plain with
  | null => exact ofHead (by rw [compact]) (by decide)
  | bool _ value => cases value <;> exact ofHead (by rw [compact]) (by decide)
  | whole =>
      obtain ⟨first, later, parts, isSign | digit⟩ := wholeText_cons _
      · exact ofHead (by rw [compact, parts]) (by rw [isSign]; decide)
      · exact ofHead (by rw [compact, parts]) (isBlank_of_isDigit digit)
  | text => exact ofHead (by rw [compact, quote_eq]) (by decide)
  | array => exact ofHead (by rw [compact]) (by decide)
  | object => exact ofHead (by rw [compact]) (by decide)

end CodeGraph.Json

namespace CodeGraph.Typesense

open CodeGraph.Json (Value)

theorem splitOn_flatMap_ended {mark : Char} {texts : List (List Char)}
    (unmarked : ∀ text ∈ texts, mark ∉ text) :
    (texts.flatMap fun text => text ++ [mark]).splitOn mark = texts ++ [[]] := by
  induction texts with
  | nil => exact List.splitOn_nil mark
  | cons first later inductionHypothesis =>
      obtain ⟨firstUnmarked, laterUnmarked⟩ := List.forall_mem_cons.mp unmarked
      rw [List.flatMap_cons, List.append_assoc, List.singleton_append,
        List.splitOn_append_cons_self_of_not_mem firstUnmarked,
        inductionHypothesis laterUnmarked, List.cons_append]

section Bodies

variable {documents others : List Value}

/-- The pieces of a body between newlines are the texts of the documents, and one more behind the
last newline. -/
theorem splitOn_importLines (plain : ∀ document ∈ documents, document.Plain Json.maxDepth) :
    (importLines documents).splitOn '\n' = documents.map Value.compact ++ [[]] := by
  have unmarked : ∀ text ∈ documents.map Value.compact, '\n' ∉ text :=
    List.forall_mem_map.mpr fun document member =>
      (plain document member).printable.newline_not_mem
  rw [← splitOn_flatMap_ended unmarked, List.flatMap_map]
  rfl

theorem map_compact_inj (plain : ∀ document ∈ documents, document.Plain Json.maxDepth)
    (alsoPlain : ∀ document ∈ others, document.Plain Json.maxDepth)
    (same : documents.map Value.compact = others.map Value.compact) : documents = others := by
  have readBack : ∀ {values : List Value}, (∀ value ∈ values, value.Plain Json.maxDepth) →
      (values.map Value.compact).map Json.parse = values.map .ok := by
    intro values arePlain
    rw [List.map_map]
    exact List.map_congr_left fun value member => Json.parse_compact (arePlain value member)
  have results : documents.map Except.ok = others.map (Except.ok (ε := Json.Fault)) := by
    rw [← readBack plain, ← readBack alsoPlain, same]
  exact (List.map_inj_right fun _ _ equal => Except.ok.inj equal).mp results

/-- The body of a batch is framed by its newlines.  Whatever characters the strings of the documents
have, the body comes apart at the newlines into one piece for each document, in order, and an empty
one behind the last; the piece of a document is not blank and gives back the document.  Only a batch
without documents has an empty body, and no two batches share one. -/
theorem import_bodies_are_framed (plain : ∀ document ∈ documents, document.Plain Json.maxDepth) :
    (∃ lines, (importLines documents).splitOn '\n' = lines ++ [[]] ∧
      List.Forall₂ (fun line document =>
        (∃ c ∈ line, Text.isBlank c = false) ∧ Json.parse line = .ok document) lines documents) ∧
    (importLines documents = [] ↔ documents = []) ∧
    ∀ others : List Value, (∀ document ∈ others, document.Plain Json.maxDepth) →
      importLines others = importLines documents → others = documents := by
  have injective : ∀ others : List Value, (∀ document ∈ others, document.Plain Json.maxDepth) →
      importLines others = importLines documents → others = documents := by
    intro others alsoPlain same
    have samePieces := congrArg (List.splitOn '\n') same
    rw [splitOn_importLines alsoPlain, splitOn_importLines plain] at samePieces
    exact map_compact_inj alsoPlain plain (List.append_cancel_right samePieces)
  refine ⟨⟨documents.map Value.compact, splitOn_importLines plain, ?_⟩, ?_, injective⟩
  · refine List.forall₂_map_left_iff.mpr (List.forall₂_same.mpr fun document member => ?_)
    exact ⟨(plain document member).exists_not_blank, Json.parse_compact (plain document member)⟩
  · constructor
    · intro isEmpty
      exact (injective [] nofun isEmpty.symm).symm
    · rintro rfl
      rfl

end Bodies

/-- Two documents with line breaks, quotes, a backslash and a control character in their strings,
and with a string that looks like the end of one document and the beginning of another one. -/
theorem import_bodies_are_framed_of_code :
    let code : Value := .object [("code", .text "a = \"x\"\r\n\tb\\n\x00"), ("id", .text "\n")]
    let nested : Value := .array [.object [("\n", .array [.text "\"\x7d\n\x7b\"", .whole (-1)])]]
    (∀ document ∈ [code, nested], document.Plain Json.maxDepth) ∧
      ∃ first second, (importLines [code, nested]).splitOn '\n' = [first, second, []] ∧
        Json.parse first = .ok code ∧ Json.parse second = .ok nested := by
  intro code nested
  have codePlain : code.Plain Json.maxDepth :=
    .object (by decide) (by simpa using ⟨.text _ _, .text _ _⟩)
  have innerPlain : (Value.array [.text "\"\x7d\n\x7b\"", .whole (-1)]).Plain 125 :=
    .array (by simpa using ⟨.text _ _, .whole _ ⟨by decide, by decide⟩⟩)
  have nestedPlain : nested.Plain Json.maxDepth :=
    .array (by simpa using .object (by decide) (by simpa using innerPlain))
  have plain : ∀ document ∈ [code, nested], document.Plain Json.maxDepth := by
    simpa using ⟨codePlain, nestedPlain⟩
  obtain ⟨⟨lines, pieces, framed⟩, _, _⟩ := import_bodies_are_framed plain
  cases framed with
  | @cons first _ _ _ ofFirst framed =>
      cases framed with
      | @cons second _ _ _ ofSecond framed =>
          cases framed
          exact ⟨plain, first, second, pieces, ofFirst.2, ofSecond.2⟩

end CodeGraph.Typesense
