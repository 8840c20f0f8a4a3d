/-
Module: CodeSplit.Proofs.JsonPrinting
Purpose: printed JSON values denote themselves.
Main exports:
  Json.writes_chars, Json.denotes_render, Json.read?_render
-/
import CodeSplit.Proofs.JsonReading

namespace CodeSplit.Json

/-!
The printer puts its tokens in the order in which the value has them and nothing
but blanks between them, so the proof follows the printer, piece by piece.
-/

/-! ### Pieces of text -/

/-- Pieces of text may be put next to each other. -/
theorem Writes.append {front back : List Char} {tokens others : List Token}
    (first : Writes front tokens) (second : Writes back others) :
    Writes (front ++ back) (tokens ++ others) := by
  induction first with
  | nil => exact second
  | blank blank rest ih => exact .blank blank ih
  | token spelled rest ih =>
      rw [List.append_assoc]
      exact .token spelled ih

/-- A token is written by itself. -/
theorem Spells.writes {front : List Char} {token : Token}
    (spelled : Spells front token) : Writes front [token] := by
  have alone := Writes.token spelled .nil
  rwa [List.append_nil] at alone

theorem writes_newLine (depth : Nat) : Writes (newLine depth) [] := by
  have blanks (count : Nat) : Writes (List.replicate count ' ') [] := by
    induction count with
    | zero => exact .nil
    | succ count ih => exact .blank rfl ih
  exact .blank rfl (blanks _)

theorem writes_textChars (text : String) :
    Writes (textChars text) [.text text] := by
  have spelled := Spells.text (quotes_flatMap_escapeChar text.toList)
  rw [String.ofList_toList] at spelled
  exact spelled.writes

theorem writes_numberChars (mantissa : Int) (scale : Nat) :
    Writes (numberChars mantissa scale) [.number mantissa scale] := by
  have spelled := Spells.number (Numeral.valid_ofNumber mantissa scale)
  rw [Numeral.chars_ofNumber, Numeral.mantissa_ofNumber,
    Numeral.scale_ofNumber] at spelled
  exact spelled.writes

/-- The name of a member and what parts it from the value. -/
theorem writes_name (name : String) :
    Writes (textChars name ++ [':', ' ']) [.text name, .colon] :=
  (writes_textChars name).append
    (Spells.colon.writes.append (.blank rfl .nil))

/-- Another item or member starts behind a comma, on a new line. -/
theorem writes_comma (depth : Nat) :
    Writes (',' :: newLine depth) [.comma] :=
  Spells.comma.writes.append (writes_newLine depth)

/-! ### Values -/

mutual

/-- The printer writes the tokens of a value. -/
theorem writes_chars (depth : Nat) : ∀ value : Json,
    Writes (value.chars depth) value.tokens
  | .null => Spells.null.writes
  | .boolean true => Spells.trueWord.writes
  | .boolean false => Spells.falseWord.writes
  | .number mantissa scale => writes_numberChars mantissa scale
  | .text value => writes_textChars value
  | .array [] => Spells.openArray.writes.append Spells.closeArray.writes
  | .array (item :: rest) => by
      have opens := Spells.openArray.writes.append (writes_newLine (depth + 1))
      have closes := (writes_newLine depth).append Spells.closeArray.writes
      have items := (writes_chars (depth + 1) item).append
        (writes_itemChars (depth + 1) rest)
      simpa [chars, tokens] using (opens.append items).append closes
  | .object [] => Spells.openObject.writes.append Spells.closeObject.writes
  | .object ((name, value) :: rest) => by
      have opens := Spells.openObject.writes.append (writes_newLine (depth + 1))
      have closes := (writes_newLine depth).append Spells.closeObject.writes
      have members := ((writes_name name).append
        (writes_chars (depth + 1) value)).append
          (writes_memberChars (depth + 1) rest)
      simpa [chars, tokens] using (opens.append members).append closes

theorem writes_itemChars (depth : Nat) : ∀ items : List Json,
    Writes (itemChars depth items) (itemTokens items)
  | [] => .nil
  | item :: rest => by
      have items := (writes_chars depth item).append
        (writes_itemChars depth rest)
      simpa [itemChars, itemTokens] using (writes_comma depth).append items

theorem writes_memberChars (depth : Nat) : ∀ members : List (String × Json),
    Writes (memberChars depth members) (memberTokens members)
  | [] => .nil
  | (name, value) :: rest => by
      have members := ((writes_name name).append
        (writes_chars depth value)).append (writes_memberChars depth rest)
      simpa [memberChars, memberTokens] using
        (writes_comma depth).append members

end

/-- The text of a value denotes that value. -/
theorem denotes_render (value : Json) : Denotes value.render value := by
  rw [Denotes, render, String.toList_ofList]
  exact writes_chars 0 value

/-- A value is read from its text. -/
theorem read?_render (value : Json) : read? value.render = some value :=
  read?_eq_some_iff.mpr (denotes_render value)

end CodeSplit.Json
