import Mathlib
import Lexeme.Proofs.Display
import Lexeme.Proofs.Strictness

/-!
# What the log tells

Between the record that begins a scan and the one that ends it, the log has one record for each
token and each comment of the source, in their order, and one more in front of each unknown token.

## Main Definitions

* `Piece` — a token or a comment of a source
* `Parted` — a text as blanks, comments and tokens in turn
* `Log.Tells` — how records and the pieces of a source belong together
* `placed` — a row of elements, each with the position that it starts at

## Design Notes

The comments of a source are said without the lexer: they are what `Parted` finds between the tokens,
and given the tokens it finds one row of pieces only (`Parted.unique`).

The lexer reports on one element at a time, and so do the statements here: `placed` brings the
tokens, the pieces and the records of a row to lists over the same elements, and what holds of the
lists holds because it does of each element.
-/

namespace Lexeme

/-! ## Pieces of a source -/

/-- A token or a comment of a source. A comment is known by the offsets of its ends. -/
inductive Piece
  /-- A token. -/
  | token (token : Token)
  /-- A comment up to the end of its line. -/
  | lineComment (start stop : Nat)
  /-- A comment between `/*` and `*/`. -/
  | blockComment (start stop : Nat)

namespace Piece

/-- The offset of the first character. -/
def start : Piece → Nat
  | .token t => t.span.start.offset
  | .lineComment start _ | .blockComment start _ => start

/-- The offset just past the last character. -/
def stop : Piece → Nat
  | .token t => t.span.stop.offset
  | .lineComment _ stop | .blockComment _ stop => stop

/-- The token that a piece is. -/
def token? : Piece → Option Token
  | .token t => some t
  | .lineComment _ _ | .blockComment _ _ => none

/-- Whether a piece is a comment. -/
def isComment (piece : Piece) : Bool := piece.token?.isNone

/-- What is told about a piece: the token as it is shown, or where the comment ends. -/
def record : Piece → Log.Record
  | .token t => ⟨.trace, t.display⟩
  | .lineComment _ stop => ⟨.trace, "skipped line comment ending at " ++ Text.decimal stop⟩
  | .blockComment _ stop => ⟨.trace, "skipped block comment ending at " ++ Text.decimal stop⟩

end Piece

/-- `Parted offset text pieces`: at `offset` of a source stands `text` up to the end, which is
blanks, comments and tokens in turn, and `pieces` are the comments and tokens. -/
inductive Parted : Nat → List Char → List Piece → Prop
  | nil {offset : Nat} : Parted offset [] []
  /-- A white-space character. -/
  | blank {offset : Nat} {c : Char} {after : List Char} {pieces : List Piece}
      (white : Text.isBlank c = true) (later : Parted (offset + 1) after pieces) :
      Parted offset (c :: after) pieces
  /-- From `//` up to, not including, the end of the line or of the source. -/
  | lineComment {offset stop : Nat} {body after : List Char} {pieces : List Piece}
      (inside : '\n' ∉ body) (closed : after = [] ∨ after.head? = some '\n')
      (place : stop = offset + body.length + 2) (later : Parted stop after pieces) :
      Parted offset ('/' :: '/' :: body ++ after) (.lineComment offset stop :: pieces)
  /-- From `/*` up to the first `*/` after it, which is included. -/
  | blockComment {offset stop : Nat} {body after : List Char} {pieces : List Piece}
      (inside : ¬['*', '/'] <:+: body ++ ['*'])
      (place : stop = offset + body.length + 4) (later : Parted stop after pieces) :
      Parted offset ('/' :: '*' :: body ++ '*' :: '/' :: after)
        (.blockComment offset stop :: pieces)
  /-- A token, which covers at least one character. -/
  | token {offset : Nat} {word after : List Char} {token : Token} {pieces : List Piece}
      (nonempty : word ≠ []) (start : token.span.start.offset = offset)
      (stop : token.span.stop.offset = offset + word.length)
      (later : Parted token.span.stop.offset after pieces) :
      Parted offset (word ++ after) (.token token :: pieces)

namespace Parted

variable {offset : Nat} {text : List Char} {pieces other : List Piece}

/-- Pieces cover at least one character and do not start before the text. -/
theorem bounds (parted : Parted offset text pieces) :
    ∀ piece ∈ pieces, offset ≤ piece.start ∧ piece.start < piece.stop := by
  induction parted with
  | nil => nofun
  | blank _ _ ih =>
    intro piece mem
    have := ih piece mem
    omega
  | lineComment _ _ place _ ih | blockComment _ place _ ih =>
    refine List.forall_mem_cons.mpr ⟨⟨Nat.le_refl _, ?_⟩, ?_⟩
    · dsimp only [Piece.start, Piece.stop]
      omega
    · intro piece mem
      have := ih piece mem
      omega
  | token nonempty start stop _ ih =>
    have positive := List.length_pos_iff.mpr nonempty
    refine List.forall_mem_cons.mpr ⟨⟨Nat.le_of_eq start.symm, ?_⟩, ?_⟩
    · dsimp only [Piece.start, Piece.stop]
      omega
    · intro piece mem
      have := ih piece mem
      omega

/-- Pieces are in order and disjoint. -/
theorem ordered (parted : Parted offset text pieces) :
    pieces.Pairwise fun piece later => piece.stop ≤ later.start := by
  induction parted with
  | nil => exact .nil
  | blank _ _ ih => exact ih
  | lineComment _ _ _ later ih | blockComment _ _ later ih | token _ _ _ later ih =>
    exact List.pairwise_cons.mpr ⟨fun piece mem => (later.bounds piece mem).1, ih⟩

/-- No token starts before the text does. -/
theorem le_of_mem_tokens (parted : Parted offset text pieces) {token : Token}
    (mem : token ∈ pieces.filterMap Piece.token?) : offset ≤ token.span.start.offset := by
  obtain ⟨piece, mem, same⟩ := List.mem_filterMap.mp mem
  cases piece with
  | token _ =>
    cases same
    exact (parted.bounds _ mem).1
  | lineComment _ _ | blockComment _ _ => cases same

end Parted

/-! ## One row of pieces -/

namespace Comment

variable {body body' after after' : List Char}

/-- A line comment ends in one place. -/
theorem eq_of_line_end (same : body ++ after = body' ++ after') (inside : '\n' ∉ body)
    (inside' : '\n' ∉ body') (closed : after = [] ∨ after.head? = some '\n')
    (closed' : after' = [] ∨ after'.head? = some '\n') : body = body' := by
  have lines := congrArg line same
  rwa [line, line, takeWhile_ne_append inside closed, takeWhile_ne_append inside' closed'] at lines

/-- No comment goes on behind its first `*/`. -/
theorem not_lt_of_block_end (same : body ++ '*' :: '/' :: after = body' ++ '*' :: '/' :: after')
    (inside' : ¬['*', '/'] <:+: body' ++ ['*']) : ¬body.length < body'.length := by
  intro shorter
  have first : body ++ ['*', '/'] <+: body' ++ '*' :: '/' :: after' := ⟨after, by simp [← same]⟩
  have second : body' ++ ['*'] <+: body' ++ '*' :: '/' :: after' := ⟨'/' :: after', by simp⟩
  have starts := List.prefix_of_prefix_length_le first second (by simp; omega)
  exact inside' ((List.suffix_append body ['*', '/']).isInfix.trans starts.isInfix)

/-- A block comment ends in one place. -/
theorem eq_of_block_end (same : body ++ '*' :: '/' :: after = body' ++ '*' :: '/' :: after')
    (inside : ¬['*', '/'] <:+: body ++ ['*']) (inside' : ¬['*', '/'] <:+: body' ++ ['*']) :
    body = body' := by
  have notShorter := not_lt_of_block_end same inside'
  have notLonger := not_lt_of_block_end same.symm inside
  exact (List.append_inj same (by omega)).1

end Comment

namespace Parted

/-- A text that starts with a token that stands there is no blank or comment: in any other way to
part it, its first token would come too late. -/
theorem tokens_ne {offset later : Nat} {text : List Char} {pieces : List Piece} {token : Token}
    {tokens : List Token} (parted : Parted later text pieces)
    (start : token.span.start.offset = offset) (behind : offset < later)
    (same : pieces.filterMap Piece.token? = token :: tokens) : False := by
  have := parted.le_of_mem_tokens (same ▸ List.mem_cons_self)
  omega

/-- **The tokens of a text determine its pieces**, and so its comments. -/
theorem unique {offset : Nat} {text : List Char} {pieces other : List Piece}
    (parted : Parted offset text pieces) (parted' : Parted offset text other)
    (same : pieces.filterMap Piece.token? = other.filterMap Piece.token?) : pieces = other := by
  induction parted generalizing other with
  | nil =>
    generalize empty : ([] : List Char) = text at parted'
    cases parted' with
    | nil => rfl
    | token nonempty _ _ _ => exact absurd (List.append_eq_nil_iff.mp empty.symm).1 nonempty
    | _ => cases empty
  | @blank offset c after pieces white later ih =>
    generalize whole : c :: after = text at parted'
    cases parted' with
    | nil => cases whole
    | blank _ later' =>
      cases whole
      exact ih later' same
    | lineComment _ _ _ _ | blockComment _ _ _ =>
      cases whole
      exact absurd white (by decide)
    | token _ start _ _ => exact (later.tokens_ne start (Nat.lt_succ_self _) same).elim
  | @lineComment offset stop body after pieces inside closed place later ih =>
    generalize whole : '/' :: '/' :: body ++ after = text at parted'
    cases parted' with
    | nil => cases whole
    | blank white _ =>
      cases whole
      exact absurd white (by decide)
    | @lineComment _ stop' body' after' _ inside' closed' place' later' =>
      have joined : body ++ after = body' ++ after' := by simpa using whole
      obtain rfl := Comment.eq_of_line_end joined inside inside' closed closed'
      obtain rfl := List.append_cancel_left joined
      subst place place'
      rw [ih later' same]
    | blockComment _ _ _ => cases whole
    | token _ start _ _ => exact (later.tokens_ne start (by omega) same).elim
  | @blockComment offset stop body after pieces inside place later ih =>
    generalize whole : '/' :: '*' :: body ++ '*' :: '/' :: after = text at parted'
    cases parted' with
    | nil => cases whole
    | blank white _ =>
      cases whole
      exact absurd white (by decide)
    | lineComment _ _ _ _ => cases whole
    | @blockComment _ stop' body' after' _ inside' place' later' =>
      have joined : body ++ '*' :: '/' :: after = body' ++ '*' :: '/' :: after' := by
        simpa using whole
      obtain rfl := Comment.eq_of_block_end joined inside inside'
      obtain rfl : after = after' := by simpa using joined
      subst place place'
      rw [ih later' same]
    | token _ start _ _ => exact (later.tokens_ne start (by omega) same).elim
  | @token offset word after token pieces nonempty start stop later ih =>
    generalize whole : word ++ after = text at parted'
    cases parted' with
    | nil => exact absurd (List.append_eq_nil_iff.mp whole).1 nonempty
    | blank _ later' => exact (later'.tokens_ne start (Nat.lt_succ_self _) same.symm).elim
    | lineComment _ _ _ later' | blockComment _ _ later' =>
      exact (later'.tokens_ne start (by omega) same.symm).elim
    | @token _ word' after' token' pieces' _ start' stop' later' =>
      obtain ⟨rfl, rest⟩ := List.cons.inj same
      obtain ⟨rfl, rfl⟩ := List.append_inj whole (by omega)
      rw [ih later' rest]

end Parted

/-! ## Records and their messages -/

/-- Whether a record is a warning. -/
def Log.Record.isWarning (record : Log.Record) : Bool := record.level = .warn

/-- Whether a record tells that a comment has been skipped. -/
def Log.Record.isSkip (record : Log.Record) : Bool :=
  record.level = .trace && "skipped ".toList.isPrefixOf record.message.toList

/-- What is told about a piece tells of a skipped comment exactly if the piece is a comment. -/
theorem Piece.isSkip_record (piece : Piece) : piece.record.isSkip = piece.isComment := by
  have skip_of_message {message : String} (text : List Char)
      (starts : message.toList = "skipped ".toList ++ text) :
      Log.Record.isSkip ⟨.trace, message⟩ = true := by
    simp only [Log.Record.isSkip, starts, decide_true, Bool.true_and, List.isPrefixOf_iff_prefix]
    exact List.prefix_append _ _
  cases piece with
  | token token =>
    apply Bool.eq_false_iff.mpr
    intro skip
    obtain ⟨more, whole⟩ := List.isPrefixOf_iff_prefix.mp (Bool.and_eq_true_iff.mp skip).2
    have first : token.display.toList.head? = some 's' := (congrArg List.head? whole).symm
    rw [Token.toList_display, List.head?_append] at first
    rcases Option.or_eq_some_iff.mp first with here | ⟨-, space⟩
    · exact token.kind.name_ne.2 here
    · exact absurd (Option.some.inj space) (by decide)
  | lineComment _ stop =>
    exact skip_of_message ("line comment ending at ".toList ++ (Text.decimal stop).toList) (by simp)
  | blockComment _ stop =>
    exact skip_of_message ("block comment ending at ".toList ++ (Text.decimal stop).toList) (by simp)

/-- Among the records of pieces the ones of tokens are those that tell of no skipped comment. -/
theorem Piece.filter_map_record (pieces : List Piece) :
    (pieces.map record).filter (!·.isSkip) =
      (pieces.filterMap token?).map fun token => ⟨.trace, token.display⟩ := by
  induction pieces with
  | nil => rfl
  | cons piece pieces ih =>
    rw [List.map_cons, List.filter_cons, piece.isSkip_record, ih]
    cases piece <;> rfl

/-- A warning tells of no skipped comment. -/
theorem Log.Record.isSkip_eq_and (record : Log.Record) :
    record.isSkip = (record.isSkip && !record.isWarning) := by
  obtain ⟨level, message⟩ := record
  cases level <;> simp [isSkip, isWarning]

theorem Piece.isWarning_record (piece : Piece) : piece.record.isWarning = false := by
  cases piece <;> rfl

/-! ## Rows of elements -/

/-- A row of elements that starts at `start`, each with the position that it starts at. -/
def placed (start : Position) : List Element → List (Position × Element)
  | [] => []
  | element :: elements => (start, element) :: placed (start.past element.text) elements

namespace Element

/-- The piece that an element is when it stands at `start`. -/
def pieceAt? (start : Position) : Element → Option Piece
  | blank _ => none
  | lineComment text => some (.lineComment start.offset (start.past text).offset)
  | blockComment text => some (.blockComment start.offset (start.past text).offset)
  | token reading text => some (.token ⟨reading.kind, reading.value, .of start text⟩)
  | unknown c => some (.token ⟨.unknown, String.ofList [c], .of start [c]⟩)

/-- What is told about an element when it stands at `start`. -/
def recordsAt (start : Position) (element : Element) : List Log.Record :=
  match element with
  | unknown c => Log.unknownFound c start :: (element.pieceAt? start).toList.map Piece.record
  | _ => (element.pieceAt? start).toList.map Piece.record

/-- The piece that an element is has the token that the element is. -/
theorem pieceAt?_bind_token? (start : Position) (element : Element) :
    (element.pieceAt? start).bind Piece.token? = element.tokenAt? start := by
  cases element <;> rfl

theorem recordsAt_of_known {element : Element} (known : element.isUnknown = false)
    (start : Position) :
    element.recordsAt start = (element.pieceAt? start).toList.map Piece.record := by
  cases element with
  | unknown _ => cases known
  | _ => rfl

end Element

/-- What a lexer reports on an element depends on its place only. -/
theorem Lexer.report_eq (lexer : Lexer) (element : Element) :
    lexer.report element = element.recordsAt lexer.here := by
  cases element <;> rfl

theorem Lexer.reports_eq_flatMap {elements : List Element} {after : List Char} {lexer : Lexer}
    (split : lexer.cursor.rest = elements.flatMap Element.text ++ after) :
    lexer.reports elements =
      (placed lexer.here elements).flatMap fun place => place.2.recordsAt place.1 := by
  induction elements generalizing lexer with
  | nil => rfl
  | cons element elements ih =>
    rw [List.flatMap_cons, List.append_assoc] at split
    have left : (lexer.pass element).cursor.rest = elements.flatMap Element.text ++ after := by
      rw [rest_pass, split, List.drop_left]
    rw [reports, report_eq, ih left, here_pass split, placed, List.flatMap_cons]

theorem tokensFrom_eq_filterMap (start : Position) (elements : List Element) :
    tokensFrom start elements =
      (placed start elements).filterMap fun place => place.2.tokenAt? place.1 := by
  induction elements generalizing start with
  | nil => rfl
  | cons element elements ih =>
    rw [tokensFrom, ih, placed, List.filterMap_cons]
    cases element.tokenAt? start <;> rfl

/-- The pieces of a row of elements that starts at `start`. -/
def piecesFrom (start : Position) (elements : List Element) : List Piece :=
  (placed start elements).filterMap fun place => place.2.pieceAt? place.1

theorem filterMap_token?_piecesFrom (start : Position) (elements : List Element) :
    (piecesFrom start elements).filterMap Piece.token? = tokensFrom start elements := by
  simp only [piecesFrom, List.filterMap_filterMap, Element.pieceAt?_bind_token?,
    tokensFrom_eq_filterMap]

/-- A block comment is read up to its first `*/`. -/
theorem Element.exists_body_of_block {tail : List Char} {element : Element}
    (found : block ('*' :: tail) = .ok element) :
    ∃ body, element = .blockComment ('/' :: '*' :: body ++ ['*', '/']) ∧
      ¬['*', '/'] <:+: body ++ ['*'] := by
  cases length : Comment.blockLength? tail with
  | none =>
    rw [block, List.tail_cons, length] at found
    cases found
  | some n =>
    rw [block_of_blockLength? length] at found
    cases found
    exact ⟨tail.take n, rfl, Comment.not_isInfix_of_blockLength? length⟩

/-- The first element of a text is a blank, or the first of its pieces. -/
theorem Element.parted_of_first {strict : Bool} {c : Char} {rest after : List Char}
    {element : Element} {start : Position} {pieces : List Piece}
    (found : first strict c rest = .ok element) (split : c :: rest = element.text ++ after)
    (later : Parted (start.past element.text).offset after pieces) :
    Parted start.offset (c :: rest) ((element.pieceAt? start).toList ++ pieces) := by
  have token_case {reading : Reading} (piece : element.pieceAt? start =
      some (.token ⟨reading.kind, reading.value, .of start element.text⟩)) :
      Parted start.offset (c :: rest) ((element.pieceAt? start).toList ++ pieces) := by
    rw [split, piece]
    exact .token (text_first_ne_nil found) rfl rfl later
  have spec := first_spec strict c rest
  generalize first strict c rest = result at spec found
  cases spec with
  | blank white =>
    cases found
    obtain rfl := (List.cons.inj split).2
    exact .blank white later
  | word _ _ => cases found; exact token_case rfl
  | number _ =>
    obtain ⟨reading, -, rfl⟩ := (ofScan_eq_ok_iff _ _).mp found
    exact token_case rfl
  | quoted _ =>
    obtain ⟨reading, -, rfl⟩ := (ofScan_eq_ok_iff _ _).mp found
    exact token_case rfl
  | lineComment slash next =>
    cases found
    obtain ⟨body, rfl⟩ := List.head?_eq_some_iff.mp next
    subst slash
    have closed := Comment.stop_of_line (List.cons.inj split).2
    have place : (start.past ('/' :: '/' :: Comment.line body)).offset =
        start.offset + (Comment.line body).length + 2 := rfl
    rw [split]
    exact .lineComment (notMem_takeWhile_ne '\n' body) closed place later
  | blockComment slash next =>
    obtain ⟨tail, rfl⟩ := List.head?_eq_some_iff.mp next
    subst slash
    obtain ⟨body, rfl, inside⟩ := exists_body_of_block found
    have place : (start.past ('/' :: '*' :: body ++ ['*', '/'])).offset =
        start.offset + body.length + 4 := by
      simp [Nat.add_assoc]
    have whole : '/' :: '*' :: tail = '/' :: '*' :: body ++ '*' :: '/' :: after := by
      simpa [text] using split
    rw [whole]
    exact .blockComment inside place later
  | symbol _ _ => cases found; exact token_case rfl
  | unknown _ _ _ _ _ =>
    split at found <;> cases found
    exact @token_case ⟨.unknown, String.ofList [c]⟩ rfl

/-- **A row that is not cut short parts its text.** -/
theorem parted_of_cut {strict : Bool} {text : List Char} {elements : List Element}
    (cut : Cut strict text elements none) (start : Position) :
    Parted start.offset text (piecesFrom start elements) := by
  generalize ended : (none : Option Fault) = fault? at cut
  induction cut generalizing start with
  | done => exact .nil
  | failed _ => cases ended
  | @moved c rest after element elements _ found split _ ih =>
    have parted := Element.parted_of_first found split (ih (start.past element.text) ended)
    rw [piecesFrom, placed, List.filterMap_cons]
    cases piece : element.pieceAt? start with
    | none => rwa [piece] at parted
    | some _ => rwa [piece] at parted

/-! ## The records of a row -/

/-- A part of what is told about a row is told about one of its elements, after all that is told
about the elements before it. -/
theorem exists_split_of_flatMap {α β : Type} {f : α → List β} {row : List α}
    {before after : List β} {x : β} (split : row.flatMap f = before ++ x :: after) :
    ∃ earlier a later first last, row = earlier ++ a :: later ∧ f a = first ++ x :: last ∧
      before = earlier.flatMap f ++ first ∧ after = last ++ later.flatMap f := by
  induction row generalizing before with
  | nil => simp at split
  | cons a row ih =>
    have further {middle : List β} (rest : row.flatMap f = middle ++ x :: after)
        (joined : before = f a ++ middle) :
        ∃ earlier b later first last, a :: row = earlier ++ b :: later ∧ f b = first ++ x :: last ∧
          before = earlier.flatMap f ++ first ∧ after = last ++ later.flatMap f := by
      obtain ⟨earlier, b, later, first, last, rfl, found, rfl, rfl⟩ := ih rest
      exact ⟨a :: earlier, b, later, first, last, rfl, found,
        by rw [joined, List.flatMap_cons, List.append_assoc], rfl⟩
    rw [List.flatMap_cons] at split
    rcases List.append_eq_append_iff.mp split with ⟨middle, joined, rest⟩ | ⟨middle, here, rest⟩
    · exact further rest joined
    · cases middle with
      | nil => exact @further [] rest.symm (by simpa using here.symm)
      | cons _ last =>
        obtain ⟨rfl, rfl⟩ := List.cons.inj rest
        exact ⟨[], a, row, before, last, rfl, here, rfl, rfl⟩

namespace Element

variable {start : Position} {element : Element}

/-- All that is told about an element is a trace or a warning. -/
theorem level_of_mem_recordsAt {record : Log.Record} (mem : record ∈ element.recordsAt start) :
    record.level = .trace ∨ record.level = .warn := by
  have told : ∀ record ∈ (element.pieceAt? start).toList.map Piece.record,
      record.level = .trace := by
    intro record mem
    obtain ⟨piece, -, rfl⟩ := List.mem_map.mp mem
    cases piece <;> rfl
  cases element with
  | unknown c =>
    rcases List.mem_cons.mp mem with rfl | mem
    · exact .inr rfl
    · exact .inl (told record mem)
  | _ => exact .inl (told record mem)

/-- Without the warning there is one record for each piece. -/
theorem filter_recordsAt (start : Position) (element : Element) :
    (element.recordsAt start).filter (!·.isWarning) =
      (element.pieceAt? start).toList.map Piece.record := by
  cases element <;> rfl

/-- What is told about an element is the record of its piece, unless it is an unknown character:
then a warning comes before the record of its token. -/
theorem recordsAt_eq_append {first last : List Log.Record} {record : Log.Record}
    (split : element.recordsAt start = first ++ record :: last) :
    (element.isUnknown = false ∧ ∃ piece, element.pieceAt? start = some piece ∧
      record = piece.record) ∨
    ∃ token warning, element.tokenAt? start = some token ∧ token.isUnknown = true ∧
      warning.isWarning = true ∧
      (first = [] ∧ record = warning ∧ last = [⟨.trace, token.display⟩] ∨
        first = [warning] ∧ record = ⟨.trace, token.display⟩) := by
  cases kind : element.isUnknown with
  | false =>
    rw [recordsAt_of_known kind] at split
    refine .inl ⟨rfl, ?_⟩
    cases here : element.pieceAt? start with
    | none => simp [here] at split
    | some piece =>
      have single : [piece.record] = first ++ record :: last := by rwa [here] at split
      have mem : record ∈ [piece.record] := by
        rw [single]
        exact List.mem_append_right first List.mem_cons_self
      exact ⟨piece, rfl, List.mem_singleton.mp mem⟩
  | true =>
    cases element with
    | unknown c =>
      refine .inr ⟨_, Log.unknownFound c start, rfl, rfl, rfl, ?_⟩
      cases first with
      | nil =>
        obtain ⟨rfl, rfl⟩ := List.cons.inj split
        exact .inl ⟨rfl, rfl, rfl⟩
      | cons _ first =>
        obtain ⟨rfl, rest⟩ := List.cons.inj split
        cases first with
        | nil => exact .inr ⟨rfl, (List.cons.inj rest).1.symm⟩
        | cons _ first => exact absurd (List.cons.inj rest).2.symm (by simp)
    | _ => cases kind

end Element

/-- Without the warnings the records of a row are those of its pieces. -/
theorem filter_records (start : Position) (elements : List Element) :
    ((placed start elements).flatMap fun place => place.2.recordsAt place.1).filter
      (!·.isWarning) = (piecesFrom start elements).map Piece.record := by
  rw [List.filter_flatMap, piecesFrom]
  induction placed start elements with
  | nil => rfl
  | cons place row ih =>
    rw [List.flatMap_cons, ih, Element.filter_recordsAt, List.filterMap_cons]
    cases place.2.pieceAt? place.1 <;> rfl

/-! ## The log of a scan -/

/-- What the records of a scan tell about a source and its tokens. -/
structure Log.Tells (source : List Char) (tokens : List Token) (records : List Log.Record) :
    Prop where
  /-- Without warnings and skipped comments the records are the tokens as they are shown. -/
  tokens_eq : records.filter (fun record => !record.isWarning && !record.isSkip) =
    tokens.map fun token => ⟨.trace, token.display⟩
  /-- Right after a warning comes the record of an unknown token. -/
  after_warning : ∀ before record after, records = before ++ record :: after →
    record.isWarning = true →
    ∃ token ∈ tokens, token.isUnknown = true ∧ after.head? = some ⟨.trace, token.display⟩
  /-- Right before the record of an unknown token comes a warning. -/
  before_unknown : ∀ before after, ∀ token ∈ tokens, token.isUnknown = true →
    records = before ++ ⟨.trace, token.display⟩ :: after →
    ∃ warning, before.getLast? = some warning ∧ warning.isWarning = true
  /-- Without warnings there is one record for each token and each comment of the source, in the
  order of the source. -/
  exists_pieces : ∃ pieces, Parted 0 source pieces ∧ pieces.filterMap Piece.token? = tokens ∧
    (∀ other, Parted 0 source other → other.filterMap Piece.token? = tokens → other = pieces) ∧
    (∀ piece ∈ pieces, piece.start < piece.stop) ∧
    (pieces.Pairwise fun piece later => piece.stop ≤ later.start) ∧
    records.filter (!·.isWarning) = pieces.map Piece.record ∧
    records.filter (·.isSkip) = (pieces.filter (·.isComment)).map Piece.record

/-- Unknown tokens are not shown like what is known. -/
theorem Element.isUnknown_of_record_eq {strict : Bool} {c : Char} {rest : List Char}
    {element : Element} {start : Position} {piece : Piece} {token : Token}
    (found : first strict c rest = .ok element) (here : element.pieceAt? start = some piece)
    (unknown : token.isUnknown = true) (same : (Piece.token token).record = piece.record) :
    element.isUnknown = true := by
  have shown : piece.isComment = false := by
    rw [← piece.isSkip_record, ← same, Piece.isSkip_record]
    rfl
  cases element with
  | blank _ => cases here
  | lineComment _ | blockComment _ =>
    cases here
    cases shown
  | unknown _ => rfl
  | token reading text =>
    cases here
    have display := congrArg Log.Record.message same
    have kind := Token.kind_eq_of_display_eq display
    have known := kind_ne_unknown_of_first found
    exact absurd (kind.symm.trans (of_decide_eq_true unknown)) known

/-- The elements of a row are the ones that have been placed. -/
theorem mem_of_mem_placed {start p : Position} {element : Element} {elements : List Element}
    (mem : (p, element) ∈ placed start elements) : element ∈ elements := by
  induction elements generalizing start with
  | nil => cases mem
  | cons first elements ih =>
    rcases List.mem_cons.mp mem with same | later
    · obtain ⟨-, rfl⟩ := Prod.mk.inj same
      exact List.mem_cons_self
    · exact List.mem_cons_of_mem first (ih later)

/-- In a row the record of an unknown token comes right after each warning. -/
theorem exists_unknown_of_warning {start : Position} {elements : List Element}
    {before after : List Log.Record} {record : Log.Record}
    (split : ((placed start elements).flatMap fun place => place.2.recordsAt place.1) =
      before ++ record :: after) (warning : record.isWarning = true) :
    ∃ token ∈ tokensFrom start elements, token.isUnknown = true ∧
      after.head? = some ⟨.trace, token.display⟩ := by
  obtain ⟨earlier, place, later, first, last, row, here, rfl, rfl⟩ := exists_split_of_flatMap split
  have mem : place ∈ placed start elements := row ▸ List.mem_append_right _ List.mem_cons_self
  rcases Element.recordsAt_eq_append here with
    ⟨-, piece, -, rfl⟩ | ⟨token, _, found, unknown, -, ⟨-, -, rfl⟩ | ⟨-, rfl⟩⟩
  · rw [piece.isWarning_record] at warning
    cases warning
  · refine ⟨token, ?_, unknown, rfl⟩
    rw [tokensFrom_eq_filterMap]
    exact List.mem_filterMap.mpr ⟨place, mem, found⟩
  · cases warning

/-- In a row a warning comes right before the record of each unknown token. -/
theorem Cut.exists_warning_of_unknown {strict : Bool} {text : List Char} {elements : List Element}
    {fault? : Option Fault} (cut : Cut strict text elements fault?) {start : Position}
    {before after : List Log.Record} {token : Token} (unknown : token.isUnknown = true)
    (split : ((placed start elements).flatMap fun place => place.2.recordsAt place.1) =
      before ++ (Piece.token token).record :: after) :
    ∃ warning, before.getLast? = some warning ∧ warning.isWarning = true := by
  obtain ⟨earlier, place, later, first, last, row, here, rfl, rfl⟩ := exists_split_of_flatMap split
  have mem : place ∈ placed start elements := row ▸ List.mem_append_right _ List.mem_cons_self
  obtain ⟨c, rest, found⟩ := cut.exists_first_of_mem (mem_of_mem_placed mem)
  rcases Element.recordsAt_eq_append here with
    ⟨known, piece, piece_eq, same⟩ | ⟨_, warning, -, -, warns, ⟨-, same, -⟩ | ⟨rfl, -⟩⟩
  · rw [Element.isUnknown_of_record_eq found piece_eq unknown same] at known
    cases known
  · rw [← same, Piece.isWarning_record] at warns
    cases warns
  · exact ⟨warning, List.getLast?_concat, warns⟩

/-- **A row that is not cut short is told.** -/
theorem Cut.tells {strict : Bool} {text : List Char} {elements : List Element}
    (cut : Cut strict text elements none) (file : String) :
    Log.Tells text (tokensFrom (.start file) elements)
      ((placed (.start file) elements).flatMap fun place => place.2.recordsAt place.1) := by
  have pieces := filter_records (.start file) elements
  have tokens := filterMap_token?_piecesFrom (.start file) elements
  have parted := parted_of_cut cut (.start file)
  refine ⟨?_, ?_, ?_, piecesFrom (.start file) elements, parted, tokens, ?_, ?_, parted.ordered,
    pieces, ?_⟩
  · rw [← tokens, ← Piece.filter_map_record, ← pieces, List.filter_filter]
    exact List.filter_congr fun record _ => Bool.and_comm _ _
  · intro before record after split warning
    exact exists_unknown_of_warning split warning
  · intro before after token _ unknown split
    exact cut.exists_warning_of_unknown unknown split
  · intro other parted' same
    exact parted'.unique parted (same.trans tokens.symm)
  · intro piece mem
    exact (parted.bounds piece mem).2
  · have comments := List.filter_map (f := Piece.record) (p := (·.isSkip))
      (l := piecesFrom (.start file) elements)
    simp only [Function.comp_def, Piece.isSkip_record] at comments
    rw [← comments, ← pieces, List.filter_filter]
    exact List.filter_congr fun record _ => record.isSkip_eq_and

/-- **The log tells the scan.**  It begins with the record that a scan of the file begins, and ends
with one that says how many tokens it came to or how it failed. Between them there are traces and
warnings only, and where the scan succeeds they tell its tokens and the comments of the source. -/
theorem log_of_tokenize (lexer : Lexer) (source file : String) :
    ∃ records : List Log.Record,
      (∀ record ∈ records, record.level = .trace ∨ record.level = .warn) ∧
      (∀ error, (lexer.tokenize source file).result = .error error →
        (lexer.tokenize source file).log = ⟨.debug, "tokenizing " ++ file⟩ :: records ++
          [⟨.debug, "tokenizing " ++ file ++ " failed: " ++ error.display⟩]) ∧
      ∀ tokens, (lexer.tokenize source file).result = .ok tokens →
        (lexer.tokenize source file).log = ⟨.debug, "tokenizing " ++ file⟩ :: records ++
          [⟨.debug, "tokenized " ++ file ++ " into " ++ Text.decimal tokens.length ++ " tokens"⟩] ∧
        Log.Tells source.toList tokens records := by
  obtain ⟨elements, fault?, cut⟩ := exists_cut lexer.strict source.toList
  obtain ⟨after, split, -⟩ := cut.exists_split
  have log := Lexer.log_tokenize_of_cut cut file
  have result := Lexer.result_tokenize_of_cut cut file
  rw [@Lexer.reports_eq_flatMap _ _ (lexer.reset source file) split] at log
  refine ⟨(placed (.start file) elements).flatMap fun place => place.2.recordsAt place.1,
    ?_, ?_, ?_⟩
  · intro record mem
    obtain ⟨place, -, mem⟩ := List.mem_flatMap.mp mem
    exact Element.level_of_mem_recordsAt mem
  · intro error failed
    rw [log, failed]
    rfl
  · intro tokens ok
    rw [log, ok]
    refine ⟨rfl, ?_⟩
    cases fault? with
    | none =>
      rw [result] at ok
      cases ok
      exact cut.tells file
    | some fault =>
      rw [result] at ok
      cases ok

/-- A warning and two comments among two tokens, and a scan that ends at the same character. -/
theorem log_of_tokenize_around_comments :
    ((Lexer.new false).tokenize "#/*/*/a//b" "s").result =
        .ok [⟨.unknown, "#", ⟨⟨0, 1, "s"⟩, ⟨1, 1, "s"⟩⟩⟩,
          ⟨.identifierName, "a", ⟨⟨6, 1, "s"⟩, ⟨7, 1, "s"⟩⟩⟩] ∧
      (∃ records : List Log.Record,
        ((Lexer.new false).tokenize "#/*/*/a//b" "s").log = ⟨.debug, "tokenizing s"⟩ :: records ++
          [⟨.debug, "tokenized s into 2 tokens"⟩] ∧
        Log.Tells "#/*/*/a//b".toList
          [⟨.unknown, "#", ⟨⟨0, 1, "s"⟩, ⟨1, 1, "s"⟩⟩⟩,
            ⟨.identifierName, "a", ⟨⟨6, 1, "s"⟩, ⟨7, 1, "s"⟩⟩⟩] records) ∧
      ((Lexer.new true).tokenize "a#" "s").result =
        .error ⟨.unrecognisedToken "#", ⟨1, 1, "s"⟩⟩ ∧
      ∃ records : List Log.Record,
        ((Lexer.new true).tokenize "a#" "s").log = ⟨.debug, "tokenizing s"⟩ :: records ++
          [⟨.debug, "tokenizing s failed: s:1:1: unrecognised token: \"#\""⟩] := by
  have ok : ((Lexer.new false).tokenize "#/*/*/a//b" "s").result =
      .ok [⟨.unknown, "#", ⟨⟨0, 1, "s"⟩, ⟨1, 1, "s"⟩⟩⟩,
        ⟨.identifierName, "a", ⟨⟨6, 1, "s"⟩, ⟨7, 1, "s"⟩⟩⟩] := by cbv
  have cut : Cut true ['a', '#'] [.verbatim .identifierName ['a']]
      (some ⟨[], .unrecognisedToken "#"⟩) := .moved rfl rfl (.failed rfl)
  have failed : ((Lexer.new true).tokenize "a#" "s").result =
      .error ⟨.unrecognisedToken "#", ⟨1, 1, "s"⟩⟩ :=
    @Lexer.result_tokenize_of_cut (.new true) "a#" _ _ cut "s"
  obtain ⟨records, -, -, told⟩ := log_of_tokenize (.new false) "#/*/*/a//b" "s"
  obtain ⟨records', -, told', -⟩ := log_of_tokenize (.new true) "a#" "s"
  exact ⟨ok, ⟨records, told _ ok⟩, failed, ⟨records', told' _ failed⟩⟩

end Lexeme
