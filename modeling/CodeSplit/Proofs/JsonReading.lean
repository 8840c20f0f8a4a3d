/-
Module: CodeSplit.Proofs.JsonReading
Purpose: the values that JSON text denotes, and a reader that finds them.
Main exports:
  Json.Spells, Json.Writes, Json.Denotes, Json.read?, Json.read?_eq_some_iff
-/
import CodeSplit.Proofs.JsonNumerals
import CodeSplit.Proofs.JsonTexts
import CodeSplit.Proofs.JsonTokens

namespace CodeSplit.Json

/-!
Text denotes a value if it writes the tokens of that value, with blanks wherever
they are wanted.  Nothing has to stand between two tokens: no value has two
words next to each other that might be read as one.
-/

/-! ### Notation -/

/-- How a token is written. -/
inductive Spells : List Char → Token → Prop where
  | openArray : Spells ['['] .openArray
  | closeArray : Spells [']'] .closeArray
  | openObject : Spells ['\x7b'] .openObject
  | closeObject : Spells ['\x7d'] .closeObject
  | comma : Spells [','] .comma
  | colon : Spells [':'] .colon
  | null : Spells ['n', 'u', 'l', 'l'] .null
  | trueWord : Spells ['t', 'r', 'u', 'e'] (.boolean true)
  | falseWord : Spells ['f', 'a', 'l', 's', 'e'] (.boolean false)
  | number {numeral : Numeral} (valid : numeral.Valid) :
      Spells numeral.chars (.number numeral.mantissa numeral.scale)
  | text {body cs : List Char} (quotes : Quotes body cs) :
      Spells ('"' :: (body ++ ['"'])) (.text (String.ofList cs))

/-- Whether a character may stand between tokens. -/
def isBlank (c : Char) : Bool :=
  c ∈ [' ', '\t', '\n', '\r']

/-- How several tokens are written. -/
inductive Writes : List Char → List Token → Prop where
  | nil : Writes [] []
  | blank {c : Char} {cs : List Char} {tokens : List Token}
      (blank : isBlank c) (rest : Writes cs tokens) : Writes (c :: cs) tokens
  | token {front cs : List Char} {token : Token} {tokens : List Token}
      (spelled : Spells front token) (rest : Writes cs tokens) :
      Writes (front ++ cs) (token :: tokens)

/-- The text is JSON and stands for the value. -/
def Denotes (text : String) (value : Json) : Prop :=
  Writes text.toList value.tokens

/-! ### Reading -/

/-- The token that is written with a single character. -/
def mark? : Char → Option Token
  | '[' => some .openArray
  | ']' => some .closeArray
  | '\x7b' => some .openObject
  | '\x7d' => some .closeObject
  | ',' => some .comma
  | ':' => some .colon
  | _ => none

/-- The token that is written with letters and digits. -/
def word? : List Char → Option Token
  | ['n', 'u', 'l', 'l'] => some .null
  | ['t', 'r', 'u', 'e'] => some (.boolean true)
  | ['f', 'a', 'l', 's', 'e'] => some (.boolean false)
  | cs =>
      (Numeral.ofChars? cs).map fun numeral =>
        .number numeral.mantissa numeral.scale

/-- Where reading stands in the text.  Characters are kept until they make up a
token, the last one first. -/
inductive Lexing where
  /-- In a word, or between tokens if there are no characters. -/
  | word (held : List Char)
  /-- Between quotes. -/
  | quoted (held : List Char)
  /-- Between quotes, behind a backslash. -/
  | escaped (held : List Char)

/-- The token that ends with the characters of a word, if there are any. -/
def flush? (held : List Char) : Option (List Token) :=
  if held = [] then some [] else (word? held.reverse).map ([·])

/-- The token that ends with the characters of a word, and those behind it. -/
def endWord? (held : List Char) (behind : Option (List Token)) :
    Option (List Token) :=
  (flush? held).bind fun front => behind.map (front ++ ·)

/-- The tokens that characters write. -/
def tokensFrom? : Lexing → List Char → Option (List Token)
  | .word held, [] => flush? held
  | .quoted _, [] => none
  | .escaped _, [] => none
  | .word held, c :: rest =>
      if isBlank c then endWord? held (tokensFrom? (.word []) rest)
      else if c = '"' then endWord? held (tokensFrom? (.quoted []) rest)
      else
        match mark? c with
        | some token =>
            endWord? held ((tokensFrom? (.word []) rest).map (token :: ·))
        | none => tokensFrom? (.word (c :: held)) rest
  | .quoted held, c :: rest =>
      if c = '"' then
        (unquote? held.reverse).bind fun cs =>
          (tokensFrom? (.word []) rest).map (.text (String.ofList cs) :: ·)
      else if c = '\\' then tokensFrom? (.escaped (c :: held)) rest
      else tokensFrom? (.quoted (c :: held)) rest
  | .escaped held, c :: rest => tokensFrom? (.quoted (c :: held)) rest

/-- The value that a text denotes. -/
def read? (text : String) : Option Json :=
  (tokensFrom? (.word []) text.toList).bind ofTokens?

/-! ### What is read is written -/

/-- The characters that have been taken but not yet made into a token. -/
def Lexing.held : Lexing → List Char
  | .word held => held.reverse
  | .quoted held => '"' :: held.reverse
  | .escaped held => '"' :: held.reverse

theorem spells_of_mark? {c : Char} {token : Token}
    (known : mark? c = some token) : Spells [c] token := by
  rw [mark?.eq_def] at known
  split at known <;> cases known <;> constructor

theorem spells_of_word? {cs : List Char} {token : Token}
    (known : word? cs = some token) : Spells cs token := by
  rw [word?.eq_def] at known
  split at known
  case h_4 =>
    obtain ⟨numeral, read, rfl⟩ := Option.map_eq_some_iff.mp known
    obtain ⟨valid, rfl⟩ := Numeral.ofChars?_eq_some_iff.mp read
    exact .number valid
  all_goals
    cases known
    constructor

theorem writes_of_flush? {held cs : List Char} {front tokens : List Token}
    (flushed : flush? held = some front) (rest : Writes cs tokens) :
    Writes (held.reverse ++ cs) (front ++ tokens) := by
  rw [flush?] at flushed
  split at flushed
  · rename_i none_held
    subst none_held
    obtain rfl := Option.some.inj flushed
    exact rest
  · obtain ⟨token, known, rfl⟩ := Option.map_eq_some_iff.mp flushed
    exact .token (spells_of_word? known) rest

theorem writes_of_endWord? {held cs : List Char} {tokens : List Token}
    {behind : Option (List Token)} (read : endWord? held behind = some tokens)
    (rest : ∀ {tokens}, behind = some tokens → Writes cs tokens) :
    Writes (held.reverse ++ cs) tokens := by
  obtain ⟨front, flushed, read⟩ := Option.bind_eq_some_iff.mp read
  obtain ⟨back, others, rfl⟩ := Option.map_eq_some_iff.mp read
  exact writes_of_flush? flushed (rest others)

/-- Whatever is read is written by the characters that were held and taken. -/
theorem writes_of_tokensFrom? {lexing : Lexing} {cs : List Char}
    {tokens : List Token} (read : tokensFrom? lexing cs = some tokens) :
    Writes (lexing.held ++ cs) tokens := by
  fun_induction tokensFrom? lexing cs generalizing tokens with
  | case1 held => simpa [Lexing.held] using writes_of_flush? read .nil
  | case2 | case3 => cases read
  | case4 held c rest blank ih =>
      exact writes_of_endWord? read fun others => .blank blank (ih others)
  | case5 held rest _ ih =>
      exact writes_of_endWord? read fun others => ih others
  | case6 held c rest _ _ token known ih =>
      apply writes_of_endWord? read
      intro behind marked
      obtain ⟨others, taken, rfl⟩ := Option.map_eq_some_iff.mp marked
      exact .token (spells_of_mark? known) (ih taken)
  | case7 held c rest _ _ _ ih => simpa [Lexing.held] using ih read
  | case8 held rest ih =>
      obtain ⟨cs, unquoted, read⟩ := Option.bind_eq_some_iff.mp read
      obtain ⟨others, taken, rfl⟩ := Option.map_eq_some_iff.mp read
      have quotes := unquote?_eq_some_iff.mp unquoted
      simpa [Lexing.held] using Writes.token (.text quotes) (ih taken)
  | case9 held rest _ ih => simpa [Lexing.held] using ih read
  | case10 held c rest _ _ ih => simpa [Lexing.held] using ih read
  | case11 held c rest ih => simpa [Lexing.held] using ih read

/-! ### What is written is read -/

/-- Whether a character ends a word. -/
def endsWord (c : Char) : Bool :=
  isBlank c || c = '"' || (mark? c).isSome

@[simp] theorem endWord?_nil (behind : Option (List Token)) :
    endWord? [] behind = behind := by
  simp [endWord?, flush?]

/-- A word is over where something follows that ends it. -/
theorem tokensFrom?_of_endsWord {cs : List Char} (held : List Char)
    (ends : ∀ c ∈ cs.head?, endsWord c) :
    tokensFrom? (.word held) cs =
      endWord? held (tokensFrom? (.word []) cs) := by
  cases cs with
  | nil => simp [tokensFrom?, endWord?, flush?]
  | cons c rest =>
      have ends : endsWord c := ends c rfl
      rw [tokensFrom?, tokensFrom?]
      split
      case isTrue => simp
      split
      case isTrue => simp
      case isFalse not_blank no_quote =>
        obtain ⟨token, known⟩ : ∃ token, mark? c = some token := by
          simpa [endsWord, not_blank, no_quote, Option.isSome_iff_exists]
            using ends
        simp [known]

/-- The characters of a word are held until it is over. -/
theorem tokensFrom?_word_append {front : List Char} (held cs : List Char)
    (inside : ∀ c ∈ front, endsWord c = false) :
    tokensFrom? (.word held) (front ++ cs) =
      tokensFrom? (.word (front.reverse ++ held)) cs := by
  induction front generalizing held with
  | nil => rfl
  | cons c rest ih =>
      have goes_on := inside c List.mem_cons_self
      simp only [endsWord, Bool.or_eq_false_iff, decide_eq_false_iff_not,
        Option.isSome_eq_false_iff, Option.isNone_iff_eq_none] at goes_on
      obtain ⟨⟨not_blank, no_quote⟩, no_mark⟩ := goes_on
      rw [List.cons_append, tokensFrom?, if_neg (by simp [not_blank]),
        if_neg no_quote, no_mark]
      dsimp only
      rw [ih _ fun c among => inside c (List.mem_cons_of_mem _ among)]
      simp

/-- Characters between quotes are held unless they end the text or start an
escape. -/
theorem tokensFrom?_quoted_append {front : List Char} (held cs : List Char)
    (inside : ∀ c ∈ front, c ≠ '"' ∧ c ≠ '\\') :
    tokensFrom? (.quoted held) (front ++ cs) =
      tokensFrom? (.quoted (front.reverse ++ held)) cs := by
  induction front generalizing held with
  | nil => rfl
  | cons c rest ih =>
      obtain ⟨no_quote, no_backslash⟩ := inside c List.mem_cons_self
      rw [List.cons_append, tokensFrom?, if_neg no_quote, if_neg no_backslash,
        ih _ fun c among => inside c (List.mem_cons_of_mem _ among)]
      simp

/-- What follows a backslash is held in any case. -/
theorem tokensFrom?_escape (c : Char) (held cs : List Char) :
    tokensFrom? (.quoted held) ('\\' :: c :: cs) =
      tokensFrom? (.quoted (c :: '\\' :: held)) cs := by
  rw [tokensFrom?, if_neg (by decide), if_pos rfl, tokensFrom?]

/-- The escape of a code unit is held. -/
theorem tokensFrom?_of_unit? {a b c d : Char} {unit : Nat}
    (code : unit? a b c d = some unit) (held cs : List Char) :
    tokensFrom? (.quoted held) ('\\' :: 'u' :: a :: b :: c :: d :: cs) =
      tokensFrom? (.quoted (d :: c :: b :: a :: 'u' :: '\\' :: held)) cs := by
  have inside : ∀ digit ∈ [a, b, c, d], digit ≠ '"' ∧ digit ≠ '\\' := by
    intro digit among
    have numeric := isSome_digitValue?_of_unit? code digit among
    constructor <;> rintro rfl <;> cases numeric
  rw [tokensFrom?_escape]
  exact tokensFrom?_quoted_append _ cs inside

/-- A character between quotes is held with the others. -/
theorem tokensFrom?_of_shows {front : List Char} {c : Char}
    (shown : Shows front c) (held cs : List Char) :
    tokensFrom? (.quoted held) (front ++ cs) =
      tokensFrom? (.quoted (front.reverse ++ held)) cs := by
  cases shown with
  | plain plain =>
      apply tokensFrom?_quoted_append
      intro x among
      obtain rfl := List.mem_singleton.mp among
      constructor <;> rintro rfl <;> cases plain
  | letter known => exact tokensFrom?_escape _ held cs
  | code code single => exact tokensFrom?_of_unit? code held cs
  | codes first isHigh second isLow =>
      exact (tokensFrom?_of_unit? first held _).trans
        (tokensFrom?_of_unit? second _ cs)

theorem tokensFrom?_of_quotes {body text : List Char}
    (quotes : Quotes body text) (held cs : List Char) :
    tokensFrom? (.quoted held) (body ++ cs) =
      tokensFrom? (.quoted (body.reverse ++ held)) cs := by
  induction quotes generalizing held with
  | nil => rfl
  | cons shown rest ih =>
      rw [List.append_assoc, tokensFrom?_of_shows shown, ih]
      simp

/-- What a number looks like is not the name of another value. -/
theorem word?_chars {numeral : Numeral} (valid : numeral.Valid) :
    word? numeral.chars = some (.number numeral.mantissa numeral.scale) := by
  have numeric := valid.isNumeric_of_mem_chars
  have read := Numeral.ofChars?_eq_some_iff.mpr ⟨valid, rfl⟩
  generalize numeral.chars = cs at *
  rw [word?.eq_def]
  split
  case h_4 => rw [read, Option.map_some]
  all_goals
    cases numeric _ List.mem_cons_self

/-- No character of a number ends a word. -/
theorem endsWord_of_isNumeric {c : Char} (numeric : Numeral.isNumeric c) :
    endsWord c = false := by
  by_contra ends
  simp only [endsWord, isBlank, Bool.not_eq_false, Bool.or_eq_true,
    decide_eq_true_eq, List.mem_cons, List.not_mem_nil, or_false] at ends
  obtain ((rfl | rfl | rfl | rfl) | rfl) | marked := ends
  case inr =>
    obtain ⟨token, known⟩ := Option.isSome_iff_exists.mp marked
    rw [mark?.eq_def] at known
    split at known
    case h_7 => cases known
    all_goals cases numeric
  all_goals cases numeric

/-- A word is known by its characters, and none of them ends it. -/
theorem Spells.word {front : List Char} {token : Token}
    (spelled : Spells front token) (word : token.isWord) :
    word? front = some token ∧ front ≠ [] ∧
      ∀ c ∈ front, endsWord c = false := by
  have letters {front : List Char}
      (inside : front.all fun c => !endsWord c) :
      ∀ c ∈ front, endsWord c = false := by
    simpa using inside
  cases spelled with
  | null => exact ⟨rfl, List.cons_ne_nil _ _, letters rfl⟩
  | trueWord => exact ⟨rfl, List.cons_ne_nil _ _, letters rfl⟩
  | falseWord => exact ⟨rfl, List.cons_ne_nil _ _, letters rfl⟩
  | number valid =>
      refine ⟨word?_chars valid, ?_, ?_⟩
      · simp [Numeral.chars, valid.some_digit]
      · intro c among
        exact endsWord_of_isNumeric (valid.isNumeric_of_mem_chars c among)
  | _ => cases word

/-- What is not a word starts with a character that ends words. -/
theorem Spells.head? {front : List Char} {token : Token}
    (spelled : Spells front token) (no_word : token.isWord = false)
    (cs : List Char) : ∀ c ∈ (front ++ cs).head?, endsWord c := by
  cases spelled with
  | null | trueWord | falseWord | number => cases no_word
  | _ =>
      rintro c ⟨⟩
      rfl

/-- What does not start with a word starts with a character that ends words. -/
theorem Writes.head? {cs : List Char} {tokens : List Token}
    (writes : Writes cs tokens)
    (no_word : ∀ token ∈ tokens.head?, token.isWord = false) :
    ∀ c ∈ cs.head?, endsWord c := by
  cases writes with
  | nil => simp
  | blank blank rest => simp [endsWord, blank]
  | token spelled rest => exact spelled.head? (no_word _ rfl) _

/-- A token that is not a word is read by itself. -/
theorem tokensFrom?_of_spells {front cs : List Char} {token : Token}
    (spelled : Spells front token) (no_word : token.isWord = false) :
    tokensFrom? (.word []) (front ++ cs) =
      (tokensFrom? (.word []) cs).map (token :: ·) := by
  have marked {c : Char} (no_blank : isBlank c = false) (no_quote : c ≠ '"')
      (known : mark? c = some token) :
      tokensFrom? (.word []) ([c] ++ cs) =
        (tokensFrom? (.word []) cs).map (token :: ·) := by
    simp [tokensFrom?, no_blank, no_quote, known]
  cases spelled with
  | null | trueWord | falseWord | number => cases no_word
  | @text body text quotes =>
      have opened (rest : List Char) : tokensFrom? (.word []) ('"' :: rest) =
          tokensFrom? (.quoted []) rest := by
        rw [tokensFrom?, if_neg (by decide), if_pos rfl, endWord?_nil]
      rw [List.cons_append, opened, List.append_assoc,
        tokensFrom?_of_quotes quotes, List.cons_append, tokensFrom?, if_pos rfl,
        List.append_nil, List.reverse_reverse,
        unquote?_eq_some_iff.mpr quotes, Option.bind_some, List.nil_append]
  | _ => exact marked rfl (by decide) rfl

/-- The tokens that a machine takes are read wherever they are written. -/
theorem tokensFrom?_of_writes {cs : List Char} {tokens : List Token}
    {reading after : Reading} (writes : Writes cs tokens)
    (went : reading.run tokens = some after) :
    tokensFrom? (.word []) cs = some tokens := by
  induction writes generalizing reading with
  | nil => rfl
  | blank blank rest ih =>
      rw [tokensFrom?, if_pos blank, endWord?_nil]
      exact ih went
  | @token front cs token tokens spelled rest ih =>
      have others : tokensFrom? (.word []) cs = some tokens := by
        rw [Reading.run_cons] at went
        obtain ⟨next, _, went⟩ := Option.bind_eq_some_iff.mp went
        exact ih went
      cases word : token.isWord with
      | false =>
          rw [tokensFrom?_of_spells spelled word, others, Option.map_some]
      | true =>
          obtain ⟨known, some_char, inside⟩ := spelled.word word
          have ends : ∀ c ∈ cs.head?, endsWord c := by
            apply rest.head?
            intro next first
            obtain ⟨others, rfl⟩ := List.head?_eq_some_iff.mp first
            exact Reading.not_isWord_of_run word went
          rw [tokensFrom?_word_append _ _ inside,
            tokensFrom?_of_endsWord _ ends, others]
          simp [endWord?, flush?, some_char, known]

/-- A text is read as a value exactly if it denotes that value. -/
theorem read?_eq_some_iff {text : String} {value : Json} :
    read? text = some value ↔ Denotes text value := by
  constructor
  · intro read
    obtain ⟨tokens, taken, read⟩ := Option.bind_eq_some_iff.mp read
    obtain rfl := ofTokens?_eq_some_iff.mp read
    exact writes_of_tokensFrom? taken
  · intro denotes
    rw [read?, tokensFrom?_of_writes denotes (run_tokens [] value),
      Option.bind_some, ofTokens?_eq_some_iff]

/-- A text denotes one value at most. -/
theorem Denotes.unique {text : String} {one other : Json}
    (denotes : Denotes text one) (denotes' : Denotes text other) :
    one = other := by
  have read := read?_eq_some_iff.mpr denotes
  rw [read?_eq_some_iff.mpr denotes'] at read
  exact (Option.some.inj read).symm

end CodeSplit.Json
