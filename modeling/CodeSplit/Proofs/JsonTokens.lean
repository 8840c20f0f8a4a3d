/-
Module: CodeSplit.Proofs.JsonTokens
Purpose: JSON values as sequences of tokens, and the machine that reads them.
Main exports:
  Json.Token, Json.tokens, Json.Reading, Json.ofTokens?,
  Json.ofTokens?_eq_some_iff
-/
import CodeSplit.Json
import Mathlib.Data.List.Basic

namespace CodeSplit.Json

/-!
A value is the same as the sequence of its tokens.  A machine takes the tokens
one after another and keeps, beside what it waits for, the arrays and objects
that are still open; so it goes through a sequence once, without looking back.
What it has taken can always be told from where it stands, and that is why it
ends with a value on the tokens of that value and on no others.
-/

/-! ### Tokens -/

/-- A token of JSON text. -/
inductive Token where
  | openArray
  | closeArray
  | openObject
  | closeObject
  | comma
  | colon
  | null
  | boolean (value : Bool)
  /-- The number `mantissa / 10 ^ scale`. -/
  | number (mantissa : Int) (scale : Nat)
  | text (value : String)
deriving Repr, DecidableEq

/-- Whether a token is written with letters or digits. -/
def Token.isWord : Token → Bool
  | .null | .boolean _ | .number _ _ => true
  | _ => false

mutual

/-- The tokens of a value. -/
def tokens : Json → List Token
  | .null => [.null]
  | .boolean value => [.boolean value]
  | .number mantissa scale => [.number mantissa scale]
  | .text value => [.text value]
  | .array [] => [.openArray, .closeArray]
  | .array (item :: rest) =>
      .openArray :: item.tokens ++ itemTokens rest ++ [.closeArray]
  | .object [] => [.openObject, .closeObject]
  | .object ((name, value) :: rest) =>
      .openObject :: .text name :: .colon :: value.tokens ++
        memberTokens rest ++ [.closeObject]

/-- The tokens of the items behind the first. -/
def itemTokens : List Json → List Token
  | [] => []
  | item :: rest => .comma :: item.tokens ++ itemTokens rest

/-- The tokens of the members behind the first. -/
def memberTokens : List (String × Json) → List Token
  | [] => []
  | (name, value) :: rest =>
      .comma :: .text name :: .colon :: value.tokens ++ memberTokens rest

end

/-! ### Reading tokens -/

/-- What a value that is being read stands in. -/
inductive Frame where
  /-- An array, with the items before the value, the last one first. -/
  | array (done : List Json)
  /-- An object, with the members before the value, the last one first, and the
  name of the value. -/
  | object (done : List (String × Json)) (name : String)

/-- What the machine waits for.  The innermost frame comes first. -/
inductive Reading where
  /-- A value. -/
  | atValue (frames : List Frame)
  /-- A value or the end of an array that has just been opened. -/
  | atFirstItem (frames : List Frame)
  /-- A name or the end of an object that has just been opened. -/
  | atFirstMember (frames : List Frame)
  /-- The name of another member. -/
  | atName (done : List (String × Json)) (frames : List Frame)
  /-- The colon behind a name. -/
  | atColon (done : List (String × Json)) (name : String) (frames : List Frame)
  /-- What may follow a value. -/
  | behindValue (value : Json) (frames : List Frame)

namespace Reading

/-- Take the first token of a value. -/
def begin (frames : List Frame) : Token → Option Reading
  | .null => some (.behindValue .null frames)
  | .boolean value => some (.behindValue (.boolean value) frames)
  | .number mantissa scale =>
      some (.behindValue (.number mantissa scale) frames)
  | .text value => some (.behindValue (.text value) frames)
  | .openArray => some (.atFirstItem frames)
  | .openObject => some (.atFirstMember frames)
  | _ => none

/-- Take a token. -/
def step : Reading → Token → Option Reading
  | .atValue frames, token => begin frames token
  | .atFirstItem frames, .closeArray => some (.behindValue (.array []) frames)
  | .atFirstItem frames, token => begin (.array [] :: frames) token
  | .atFirstMember frames, .closeObject =>
      some (.behindValue (.object []) frames)
  | .atFirstMember frames, .text name => some (.atColon [] name frames)
  | .atName done frames, .text name => some (.atColon done name frames)
  | .atColon done name frames, .colon =>
      some (.atValue (.object done name :: frames))
  | .behindValue value (.array done :: frames), .comma =>
      some (.atValue (.array (value :: done) :: frames))
  | .behindValue value (.array done :: frames), .closeArray =>
      some (.behindValue (.array (value :: done).reverse) frames)
  | .behindValue value (.object done name :: frames), .comma =>
      some (.atName ((name, value) :: done) frames)
  | .behindValue value (.object done name :: frames), .closeObject =>
      some (.behindValue (.object ((name, value) :: done).reverse) frames)
  | _, _ => none

/-- Take several tokens. -/
def run (reading : Reading) (tokens : List Token) : Option Reading :=
  tokens.foldlM step reading

/-- The value that has been read, if nothing is open. -/
def result? : Reading → Option Json
  | .behindValue value [] => some value
  | _ => none

@[simp] theorem run_nil (reading : Reading) :
    reading.run [] = some reading := rfl

theorem run_cons (reading : Reading) (token : Token) (rest : List Token) :
    reading.run (token :: rest) = (reading.step token).bind (·.run rest) := rfl

theorem run_append (reading : Reading) (front back : List Token) :
    reading.run (front ++ back) = (reading.run front).bind (·.run back) :=
  List.foldlM_append

end Reading

/-- The value that tokens stand for. -/
def ofTokens? (tokens : List Token) : Option Json :=
  ((Reading.atValue []).run tokens).bind Reading.result?

namespace Reading

variable {reading after : Reading} {frames : List Frame} {token : Token}

/-- A value that is a word is over at once. -/
theorem begin_of_isWord (word : token.isWord)
    (begins : begin frames token = some after) :
    ∃ value, after = .behindValue value frames := by
  cases token <;> cases word <;> cases begins <;> exact ⟨_, rfl⟩

theorem step_of_isWord (word : token.isWord)
    (went : reading.step token = some after) :
    ∃ value frames, after = .behindValue value frames := by
  rw [step.eq_def] at went
  split at went
  case h_1 _ _ frames =>
    obtain ⟨value, ended⟩ := begin_of_isWord word went
    exact ⟨value, frames, ended⟩
  case h_3 _ _ frames _ =>
    obtain ⟨value, ended⟩ := begin_of_isWord word went
    exact ⟨value, .array [] :: frames, ended⟩
  case h_12 => cases went
  all_goals cases word

/-- A word cannot stand behind a value. -/
theorem step_behindValue_of_isWord (value : Json) (word : token.isWord) :
    (Reading.behindValue value frames).step token = none := by
  match frames with
  | [] => cases token <;> cases word <;> rfl
  | .array _ :: _ => cases token <;> cases word <;> rfl
  | .object _ _ :: _ => cases token <;> cases word <;> rfl

/-- No word follows another. -/
theorem not_isWord_of_run {next : Token} {rest : List Token}
    (word : token.isWord)
    (went : reading.run (token :: next :: rest) = some after) :
    next.isWord = false := by
  rw [run_cons] at went
  obtain ⟨behind, taken, went⟩ := Option.bind_eq_some_iff.mp went
  rw [run_cons] at went
  obtain ⟨_, next_taken, _⟩ := Option.bind_eq_some_iff.mp went
  obtain ⟨value, frames, rfl⟩ := step_of_isWord word taken
  by_contra next_word
  rw [step_behindValue_of_isWord value (by simpa using next_word)] at next_taken
  cases next_taken

end Reading

/-! ### Every value is read from its tokens -/

/-- No value starts like the end of an array. -/
theorem exists_tokens_eq_cons (value : Json) :
    ∃ first rest, value.tokens = first :: rest ∧ first ≠ .closeArray := by
  cases value with
  | array items => cases items <;> simp [tokens]
  | object members => cases members <;> simp [tokens]
  | _ => simp [tokens]

/-- The first item of an array is read like any other value. -/
theorem Reading.run_atFirstItem (value : Json) (frames : List Frame) :
    (Reading.atFirstItem frames).run value.tokens =
      (Reading.atValue (.array [] :: frames)).run value.tokens := by
  obtain ⟨first, rest, begins, apart⟩ := exists_tokens_eq_cons value
  have same : (Reading.atFirstItem frames).step first =
      (Reading.atValue (.array [] :: frames)).step first := by
    cases first with
    | closeArray => exact absurd rfl apart
    | _ => rfl
  rw [begins, run_cons, run_cons, same]

mutual

/-- The tokens of a value lead from waiting for it to having read it. -/
theorem run_tokens (frames : List Frame) : ∀ value : Json,
    (Reading.atValue frames).run value.tokens = some (.behindValue value frames)
  | .null => rfl
  | .boolean _ => rfl
  | .number _ _ => rfl
  | .text _ => rfl
  | .array [] => rfl
  | .array (item :: rest) => by
      have opened : (Reading.atValue frames).step .openArray =
          some (.atFirstItem frames) := rfl
      rw [tokens, List.cons_append, List.cons_append, Reading.run_cons, opened,
        Option.bind_some, List.append_assoc, Reading.run_append,
        Reading.run_atFirstItem, run_tokens _ item, Option.bind_some,
        run_itemTokens]
      rfl
  | .object [] => rfl
  | .object ((name, value) :: rest) => by
      have opened :
          (Reading.atValue frames).run [.openObject, .text name, .colon] =
            some (.atValue (.object [] name :: frames)) := rfl
      have split : (Json.object ((name, value) :: rest)).tokens =
          [.openObject, .text name, .colon] ++ (value.tokens ++
            (memberTokens rest ++ [.closeObject])) := by
        simp [tokens]
      rw [split, Reading.run_append, opened, Option.bind_some,
        Reading.run_append, run_tokens _ value, Option.bind_some,
        run_memberTokens]
      rfl

/-- The items behind the first are read up to the end of the array. -/
theorem run_itemTokens (frames : List Frame) (done : List Json) (value : Json) :
    ∀ rest : List Json,
      (Reading.behindValue value (.array done :: frames)).run
          (itemTokens rest ++ [.closeArray]) =
        some (.behindValue (.array ((value :: done).reverse ++ rest)) frames)
  | [] => by
      rw [List.append_nil]
      rfl
  | item :: rest => by
      have parted :
          (Reading.behindValue value (.array done :: frames)).step .comma =
            some (.atValue (.array (value :: done) :: frames)) := rfl
      rw [itemTokens, List.cons_append, List.cons_append, Reading.run_cons,
        parted, Option.bind_some, List.append_assoc, Reading.run_append,
        run_tokens _ item, Option.bind_some, run_itemTokens]
      simp

/-- The members behind the first are read up to the end of the object. -/
theorem run_memberTokens (frames : List Frame) (done : List (String × Json))
    (name : String) (value : Json) : ∀ rest : List (String × Json),
      (Reading.behindValue value (.object done name :: frames)).run
          (memberTokens rest ++ [.closeObject]) =
        some (.behindValue
          (.object (((name, value) :: done).reverse ++ rest)) frames)
  | [] => by
      rw [List.append_nil]
      rfl
  | (next, item) :: rest => by
      have parted :
          (Reading.behindValue value (.object done name :: frames)).run
              [.comma, .text next, .colon] =
            some (.atValue (.object ((name, value) :: done) next :: frames)) :=
        rfl
      have split : memberTokens ((next, item) :: rest) ++ [.closeObject] =
          [.comma, .text next, .colon] ++ (item.tokens ++
            (memberTokens rest ++ [.closeObject])) := by
        simp [memberTokens]
      rw [split, Reading.run_append, parted, Option.bind_some,
        Reading.run_append, run_tokens _ item, Option.bind_some,
        run_memberTokens]
      simp

end

/-! ### Nothing else is read -/

/-- The tokens of items that are followed by others. -/
def tokensBefore (items : List Json) : List Token :=
  items.flatMap fun item => item.tokens ++ [.comma]

/-- The tokens of members that are followed by others. -/
def memberTokensBefore (members : List (String × Json)) : List Token :=
  members.flatMap fun member =>
    .text member.1 :: .colon :: member.2.tokens ++ [.comma]

theorem itemTokens_concat (items : List Json) (last : Json) :
    itemTokens (items ++ [last]) =
      .comma :: tokensBefore items ++ last.tokens := by
  induction items with
  | nil => simp [itemTokens, tokensBefore]
  | cons item rest ih => simp [itemTokens, tokensBefore, ih]

theorem memberTokens_concat (members : List (String × Json))
    (last : String × Json) :
    memberTokens (members ++ [last]) =
      .comma :: memberTokensBefore members ++
        .text last.1 :: .colon :: last.2.tokens := by
  induction members with
  | nil => simp [memberTokens, memberTokensBefore]
  | cons member rest ih => simp [memberTokens, memberTokensBefore, ih]

theorem tokens_array_concat (items : List Json) (last : Json) :
    (Json.array (items ++ [last])).tokens =
      .openArray :: tokensBefore items ++ last.tokens ++ [.closeArray] := by
  cases items with
  | nil => simp [tokens, itemTokens, tokensBefore]
  | cons item rest => simp [tokens, itemTokens_concat, tokensBefore]

theorem tokens_object_concat (members : List (String × Json))
    (last : String × Json) :
    (Json.object (members ++ [last])).tokens =
      .openObject :: memberTokensBefore members ++
        .text last.1 :: .colon :: last.2.tokens ++ [.closeObject] := by
  cases members with
  | nil => simp [tokens, memberTokens, memberTokensBefore]
  | cons member rest =>
      simp [tokens, memberTokens_concat, memberTokensBefore]

/-- The tokens from the start of a frame up to the value in it. -/
def Frame.taken : Frame → List Token
  | .array done => .openArray :: tokensBefore done.reverse
  | .object done name =>
      .openObject :: memberTokensBefore done.reverse ++ [.text name, .colon]

/-- The tokens from the start up to a value in the given frames. -/
def takenBy (frames : List Frame) : List Token :=
  frames.reverse.flatMap Frame.taken

/-- The tokens that have been taken. -/
def Reading.taken : Reading → List Token
  | .atValue frames => takenBy frames
  | .atFirstItem frames => takenBy frames ++ [.openArray]
  | .atFirstMember frames => takenBy frames ++ [.openObject]
  | .atName done frames =>
      takenBy frames ++ .openObject :: memberTokensBefore done.reverse
  | .atColon done name frames =>
      takenBy frames ++ .openObject :: memberTokensBefore done.reverse ++
        [.text name]
  | .behindValue value frames => takenBy frames ++ value.tokens

theorem takenBy_cons (frame : Frame) (frames : List Frame) :
    takenBy (frame :: frames) = takenBy frames ++ frame.taken := by
  simp [takenBy]

theorem Reading.taken_begin {frames : List Frame} {token : Token}
    {after : Reading} (begins : begin frames token = some after) :
    after.taken = takenBy frames ++ [token] := by
  cases token <;> cases begins <;> simp [taken, tokens]

/-- A step takes one token. -/
theorem Reading.taken_step {reading after : Reading} {token : Token}
    (went : reading.step token = some after) :
    after.taken = reading.taken ++ [token] := by
  rw [step.eq_def] at went
  split at went
  case h_1 => exact taken_begin went
  case h_3 =>
    rw [taken_begin went, takenBy_cons]
    simp [taken, Frame.taken, tokensBefore]
  case h_12 => cases went
  all_goals
    cases went
    simp [taken, takenBy_cons, Frame.taken, tokens, tokensBefore,
      memberTokensBefore, tokens_array_concat, tokens_object_concat]

theorem Reading.taken_run {reading after : Reading} {tokens : List Token}
    (went : reading.run tokens = some after) :
    after.taken = reading.taken ++ tokens := by
  induction tokens generalizing reading with
  | nil =>
      obtain rfl := Option.some.inj went
      exact (List.append_nil _).symm
  | cons token rest ih =>
      rw [run_cons] at went
      obtain ⟨next, stepped, went⟩ := Option.bind_eq_some_iff.mp went
      rw [ih went, taken_step stepped, List.append_assoc, List.singleton_append]

/-- Tokens stand for a value exactly if they are the tokens of that value. -/
theorem ofTokens?_eq_some_iff {sequence : List Token} {value : Json} :
    ofTokens? sequence = some value ↔ sequence = value.tokens := by
  constructor
  · intro read
    obtain ⟨reading, went, ended⟩ := Option.bind_eq_some_iff.mp read
    match reading, ended with
    | .behindValue read [], ended =>
        obtain rfl := Option.some.inj ended
        exact (Reading.taken_run went).symm
  · rintro rfl
    rw [ofTokens?, run_tokens]
    rfl

end CodeSplit.Json
