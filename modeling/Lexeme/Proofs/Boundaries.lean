import Mathlib
import Lexeme.Proofs.Spelling

/-!
# What follows an element

An element is read without regard to the text after it, as long as that text does not continue it: a
word goes on with a letter, `-` with `>`, a number with almost anything but a blank.

## Main Definitions

* `Symbol.continuedBy` — the characters that make something else of a symbol
* `Element.Stops` — what may stand after an element

## Design Notes

`Element.First.first_eq` makes the rules of `Element.First` the graph of `Element.first`, so an
element is read in another place by giving the rule it was read by. That gives the two halves of
`Element.first_append_iff_stops`: what follows an element stops it, and it is read again before any
other text that stops it. Rows are put together by `Cut.append`, which asks this of the last element
only; what follows the others begins as before.
-/

namespace Lexeme

/-- The first part of a text is all that passes a test when its characters pass and the next one
does not. -/
theorem takeWhile_append_eq_left_iff {p : Char → Bool} {text after : List Char} :
    (text ++ after).takeWhile p = text ↔
      (∀ c ∈ text, p c = true) ∧ ∀ d ∈ after.head?, p d = false := by
  have next : after.takeWhile p = [] ↔ ∀ d ∈ after.head?, p d = false := by
    cases after with
    | nil => simp
    | cons d after => by_cases passes : p d = true <;> simp [passes]
  constructor
  · intro whole
    have all : ∀ c ∈ text, p c = true := fun c mem => List.mem_takeWhile_imp (whole ▸ mem)
    rw [List.takeWhile_append_of_pos all] at whole
    exact ⟨all, next.mp (List.append_right_eq_self.mp whole)⟩
  · rintro ⟨all, stop⟩
    rw [List.takeWhile_append_of_pos all, next.mpr stop, List.append_nil]

/-- A text without `mark` is all that stands before `mark`, if `mark` follows it or nothing does. -/
theorem takeWhile_ne_append {mark : Char} {text after : List Char} (absent : mark ∉ text)
    (closed : after = [] ∨ after.head? = some mark) :
    (text ++ after).takeWhile (· ≠ mark) = text := by
  refine takeWhile_append_eq_left_iff.mpr ⟨?_, ?_⟩
  · intro c mem
    exact decide_eq_true (ne_of_mem_of_not_mem mem absent)
  · intro d first
    rcases closed with rfl | next
    · cases first
    · rw [next] at first
      simpa using first.symm

/-! ## Blanks -/

/-- A blank is neither a letter nor numeric. -/
theorem Text.isAlphanumeric_of_isBlank {c : Char} (white : isBlank c = true) :
    isAlphanumeric c = false := by
  let points := whiteSpace.list.flatMap fun r => List.range' r.1 (r.2 + 1 - r.1)
  have all : points.all (fun n => !isAlphanumeric (Char.ofNat n)) = true := by decide +kernel
  have mem : c.toNat ∈ points := by
    obtain ⟨r, mem, lower, upper⟩ := (whiteSpace.has_eq_true_iff _).mp white
    refine List.mem_flatMap.mpr ⟨r, mem, List.mem_range'_1.mpr ⟨lower, by omega⟩⟩
  simpa using List.all_eq_true.mp all _ mem

namespace Number

/-- A blank is no part of a number. -/
theorem other_of_isBlank {d : Char} (white : Text.isBlank d = true) :
    d.isAlphanum = false ∧ d ≠ '_' ∧ d ≠ '.' := by
  refine ⟨?_, ?_, ?_⟩
  · apply Bool.eq_false_iff.mpr
    intro alphanum
    have word := Text.isAlphanumeric_of_isAlphanum alphanum
    rw [Text.isAlphanumeric_of_isBlank white] at word
    cases word
  · rintro rfl
    exact absurd white (by decide)
  · rintro rfl
    exact absurd white (by decide)

/-- A number may end before a blank, and where the source ends. -/
theorem ends_of_isBlank {after : List Char} (white : ∀ d ∈ after.head?, Text.isBlank d = true) :
    Ends after := by
  cases after with
  | nil => trivial
  | cons d after => exact .inl (other_of_isBlank (white d rfl))

end Number

/-! ## Symbols -/

namespace Symbol

/-- The characters that symbols start with. -/
def heads : List Char := table.filterMap fun entry => entry.1.head?

/-- Whether a character after a symbol makes a longer symbol of it, or a comment of a slash. -/
def continuedBy (text : List Char) (next : Char) : Bool :=
  (table.any fun entry => (text ++ [next]).isPrefixOf entry.1) ||
    (text = ['/'] && (next = '/' || next = '*'))

theorem continuedBy_eq_true_iff (text : List Char) (next : Char) :
    continuedBy text next = true ↔
      (∃ entry ∈ table, text ++ [next] <+: entry.1) ∨
        text = ['/'] ∧ (next = '/' ∨ next = '*') := by
  simp [continuedBy, List.any_eq_true]

/-- No symbol begins one that comes after it in the table. -/
theorem pairwise_table : table.Pairwise fun entry later => ¬entry.1 <+: later.1 := by
  decide

/-- What a symbol begins with is a symbol. -/
theorem mem_table_of_isPrefix {text : List Char} {entry : List Char × Kind} (mem : entry ∈ table)
    (starts : text <+: entry.1) (nonempty : text ≠ []) : text ∈ table.map Prod.fst := by
  have all : table.all (fun entry => entry.1.inits.all fun text =>
      text = [] || (table.map Prod.fst).contains text) = true := by decide
  have found := List.all_eq_true.mp (List.all_eq_true.mp all entry mem) text
    ((List.mem_inits text entry.1).mpr starts)
  simpa [nonempty] using found

/-- The symbol that is read is the longest one. -/
theorem length_le_of_read? {source text : List Char} {kind : Kind}
    (found : read? source = some (text, kind)) {entry : List Char × Kind} (mem : entry ∈ table)
    (starts : entry.1 <+: source) : entry.1.length ≤ text.length := by
  have ordered := pairwise_table
  obtain ⟨here, before, after, split, earlier⟩ := List.find?_eq_some_iff_append.mp found
  rw [split] at mem ordered
  rcases List.mem_append.mp mem with mem | mem
  · have refused := earlier entry mem
    rw [List.isPrefixOf_iff_prefix.mpr starts] at refused
    cases refused
  · rcases List.mem_cons.mp mem with rfl | mem
    · exact Nat.le_refl _
    · -- A longer one would begin with the one read, which comes before it.
      apply Nat.le_of_not_lt
      intro longer
      have begins : text <+: entry.1 :=
        List.prefix_of_prefix_length_le (isPrefix_of_read? found) starts (Nat.le_of_lt longer)
      exact List.rel_of_pairwise_cons (List.pairwise_append.mp ordered).2.1 mem begins

/-- A symbol is read where nothing continues it. -/
theorem read?_append {text after : List Char} {kind : Kind} (mem : (text, kind) ∈ table)
    (stop : ∀ d ∈ after.head?, continuedBy text d = false) :
    read? (text ++ after) = some (text, kind) := by
  cases found : read? (text ++ after) with
  | none =>
    have refused := List.find?_eq_none.mp found _ mem
    exact absurd (List.isPrefixOf_iff_prefix.mpr (List.prefix_append text after)) refused
  | some entry =>
    obtain ⟨longest, kind'⟩ := entry
    have longer := length_le_of_read? found mem (List.prefix_append text after)
    obtain ⟨tail, rfl⟩ : text <+: longest :=
      List.prefix_of_prefix_length_le (List.prefix_append text after) (isPrefix_of_read? found)
        longer
    cases tail with
    | nil =>
      have distinct : (table.map Prod.fst).Nodup := by decide
      have same := List.inj_on_of_nodup_map distinct (mem_table_of_read? found) mem
        (List.append_nil text)
      rw [same]
    | cons d tail =>
      have starts := (List.prefix_append_right_inj text).mp (isPrefix_of_read? found)
      have next : d ∈ after.head? := by
        obtain ⟨rest, rfl⟩ := starts
        rfl
      have continued : continuedBy text d = true := by
        apply Bool.or_eq_true_iff.mpr
        refine .inl (List.any_eq_true.mpr ⟨_, mem_table_of_read? found, ?_⟩)
        exact List.isPrefixOf_iff_prefix.mpr (by simp)
      rw [stop d next] at continued
      cases continued

/-- Nothing continues a symbol that is read and starts no comment. -/
theorem continuedBy_of_read? {text after : List Char} {kind : Kind}
    (found : read? (text ++ after) = some (text, kind))
    (noComment : text = ['/'] → ∀ d ∈ after.head?, d ≠ '/' ∧ d ≠ '*') :
    ∀ d ∈ after.head?, continuedBy text d = false := by
  intro d next
  obtain ⟨rest, rfl⟩ : ∃ rest, after = d :: rest := List.head?_eq_some_iff.mp next
  apply Bool.eq_false_iff.mpr
  intro continued
  rcases (continuedBy_eq_true_iff text d).mp continued with ⟨entry, mem, starts⟩ | ⟨slash, comment⟩
  · -- The longer symbol would have been read.
    obtain ⟨symbol, mem, same⟩ := List.mem_map.mp (mem_table_of_isPrefix mem starts (by simp))
    have short := length_le_of_read? found mem (by rw [same]; simp)
    rw [same] at short
    simp at short
  · obtain ⟨notSlash, notStar⟩ := noComment slash d next
    exact comment.elim notSlash notStar

/-- A blank continues no symbol. -/
theorem continuedBy_of_isBlank {d : Char} (white : Text.isBlank d = true) (text : List Char) :
    continuedBy text d = false := by
  have none : table.all (fun entry => entry.1.all fun c => !Text.isBlank c) = true := by
    decide
  apply Bool.eq_false_iff.mpr
  intro continued
  rcases (continuedBy_eq_true_iff text d).mp continued with ⟨entry, mem, starts⟩ | ⟨-, rfl | rfl⟩
  · have inside : d ∈ entry.1 := starts.subset (by simp)
    have other := List.all_eq_true.mp (List.all_eq_true.mp none entry mem) d inside
    rw [white] at other
    cases other
  · exact absurd white (by decide)
  · exact absurd white (by decide)

/-- A symbol is read exactly if one starts with the first character. -/
theorem read?_eq_none_iff {c : Char} {rest : List Char} :
    read? (c :: rest) = none ↔ c ∉ heads := by
  constructor
  · intro none head
    have single : heads.all (fun c => (table.map Prod.fst).contains [c]) = true := by decide
    have listed := List.contains_iff_mem.mp (List.all_eq_true.mp single c head)
    obtain ⟨entry, mem, same⟩ := List.mem_map.mp listed
    have refused := List.find?_eq_none.mp none entry mem
    rw [same] at refused
    exact refused (by simp)
  · intro other
    apply Option.eq_none_iff_forall_ne_some.mpr
    rintro ⟨text, kind⟩ found
    have mem := mem_table_of_read? found
    cases text with
    | nil => exact ne_nil_of_mem_table mem rfl
    | cons d text =>
      obtain rfl := (List.cons_prefix_cons.mp (isPrefix_of_read? found)).1
      exact other (List.mem_filterMap.mpr ⟨_, mem, rfl⟩)

end Symbol

/-! ## Literals and comments -/

/-- A number that is read is a written number, and may end where it ends. -/
theorem Number.exists_written_of_scan_append {text after : List Char} {reading : Reading}
    (ok : (scan (text ++ after)).outcome = .ok reading)
    (covers : (scan (text ++ after)).text = text) :
    ∃ kind mark digits, text = mark ++ digits ∧ Written kind mark digits ∧ Ends after := by
  obtain ⟨kind, mark, digits, rest, split, written, ends⟩ := exists_written_of_scan ok
  rw [split, scan_of_written written ends] at covers
  subst covers
  exact ⟨kind, mark, digits, rfl, written, List.append_cancel_left split ▸ ends⟩

/-- No number that is read starts with a separator. -/
theorem Number.isDigit_of_scan {c : Char} {rest : List Char} {reading : Reading}
    (starts : Element.startsNumber c rest = true)
    (ok : (scan (c :: rest)).outcome = .ok reading) : c.isDigit = true := by
  rcases (Bool.or_eq_true _ _).mp starts with digit | separator
  · exact digit
  · obtain rfl := of_decide_eq_true (Bool.and_eq_true_iff.mp separator).1
    have refused : ∃ cause, (body .decimal none ('_' :: rest)).outcome = .error cause := by
      by_cases double : rest.head? = some '_'
      · exact ⟨.misplacedOrDuplicateSeparator true, by simp [body, double]⟩
      · exact ⟨.misplacedOrDuplicateSeparator false, by simp [body, double]⟩
    obtain ⟨cause, refused⟩ := refused
    rw [scan_of_bare (by simp [Bare]), Body.toScan, refused] at ok
    cases ok

/-- A quoted literal ends with the first delimiter after its first character, whatever that is. -/
theorem Quoted.scan_of_notMem {d : Char} {content : List Char} (inside : d ∉ content)
    (opening : Char) (after : List Char) : scan d (opening :: (content ++ d :: after)) =
      ⟨opening :: content ++ [d], content.count '\n', judge d content⟩ := by
  have first : (content ++ d :: after).takeWhile (· ≠ d) = content :=
    takeWhile_ne_append inside (.inr rfl)
  have mem : d ∈ content ++ d :: after := by simp
  simp only [scan, List.tail_cons, first, if_pos mem]
  rfl

/-- A quoted literal without a closing delimiter passes over all there is, and is refused. -/
theorem Quoted.scan_of_notMem_tail {d : Char} {source : List Char} (absent : d ∉ source.tail) :
    scan d source = ⟨source, source.tail.count '\n', .error ⟨[], .unterminatedLiteral d⟩⟩ := by
  unfold scan
  rw [if_neg absent, takeWhile_eq_self_of_notMem absent]

/-- A quoted literal without a closing delimiter is refused. -/
theorem Quoted.outcome_scan_of_notMem {d : Char} {rest : List Char} (absent : d ∉ rest) :
    (scan d (d :: rest)).outcome = .error ⟨[], .unterminatedLiteral d⟩ :=
  congrArg Scan.outcome (@scan_of_notMem_tail d (d :: rest) absent)

/-- The first `*/` of a text is found without the text after it. -/
theorem Comment.blockLength?_take_append {text : List Char} {n : Nat}
    (found : blockLength? text = some n) (more : List Char) :
    blockLength? (text.take (n + 2) ++ more) = some n := by
  induction text generalizing n with
  | nil => cases found
  | cons c tail ih =>
    rw [blockLength?_cons] at found
    rw [List.take_succ_cons, List.cons_append, blockLength?_cons]
    split at found
    · next here =>
      cases found
      obtain ⟨rfl, next⟩ := here
      obtain ⟨rest, rfl⟩ := List.head?_eq_some_iff.mp next
      simp
    · next notHere =>
      obtain ⟨m, later, rfl⟩ := Option.map_eq_some_iff.mp found
      have same : (tail.take (m + 2) ++ more).head? = tail.head? := by
        cases tail with
        | nil => cases later
        | cons d tail => rfl
      rw [same, if_neg notHere, ih later]
      rfl

namespace Element

/-! ## The rules exclude each other -/

/-- The characters that start a number are neither blanks nor letters. -/
theorem other_of_startsNumber {c : Char} {rest : List Char} (starts : startsNumber c rest = true) :
    Text.isBlank c = false ∧ Text.isAlphabetic c = false := by
  have all : ('_' :: Kind.numericLiteral.digits).all
      (fun c => !Text.isBlank c && !Text.isAlphabetic c) = true := by decide
  have mem : c ∈ '_' :: Kind.numericLiteral.digits := by
    rcases (Bool.or_eq_true _ _).mp starts with digit | separator
    · exact List.mem_cons_of_mem _ ((Number.accepts_iff_mem .decimal c).mp digit)
    · rw [of_decide_eq_true (Bool.and_eq_true_iff.mp separator).1]
      exact List.mem_cons_self
  simpa using List.all_eq_true.mp all c mem

/-- Quotes are neither blanks nor letters, and start no number. -/
theorem other_of_startsQuoted {c : Char} (starts : startsQuoted c = true) (rest : List Char) :
    Text.isBlank c = false ∧ Text.isAlphabetic c = false ∧ startsNumber c rest = false := by
  rcases startsQuoted_iff.mp starts with rfl | rfl | rfl <;> exact ⟨by decide, by decide, rfl⟩

/-- The characters that symbols start with start nothing else, comments apart. -/
theorem other_of_mem_heads {c : Char} (head : c ∈ Symbol.heads) (rest : List Char) :
    Text.isBlank c = false ∧ Text.isAlphabetic c = false ∧ startsNumber c rest = false ∧
      startsQuoted c = false := by
  have all : Symbol.heads.all (fun c => !Text.isBlank c && !Text.isAlphabetic c &&
      !c.isDigit && c ≠ '_' && !startsQuoted c) = true := by decide
  have other := List.all_eq_true.mp all c head
  simp_all [startsNumber]

/-- **The rules exclude each other**, so the rule that fits says what the first element is. -/
theorem First.first_eq {strict : Bool} {c : Char} {rest : List Char}
    {result : Except Fault Element} (spec : First strict c rest result) :
    first strict c rest = result := by
  unfold first
  cases spec with
  | blank white => rw [if_pos white]
  | word notBlank letter => simp [notBlank, letter]
  | number starts =>
    obtain ⟨notBlank, notLetter⟩ := other_of_startsNumber starts
    simp [notBlank, notLetter, starts]
  | quoted starts =>
    obtain ⟨notBlank, notLetter, notNumber⟩ := other_of_startsQuoted starts rest
    simp [notBlank, notLetter, notNumber, starts]
  | lineComment slash next =>
    subst slash
    have head : '/' ∈ Symbol.heads := by decide
    obtain ⟨notBlank, notLetter, notNumber, notQuoted⟩ := other_of_mem_heads head rest
    simp [notBlank, notLetter, notNumber, notQuoted, next]
  | blockComment slash next =>
    subst slash
    have head : '/' ∈ Symbol.heads := by decide
    obtain ⟨notBlank, notLetter, notNumber, notQuoted⟩ := other_of_mem_heads head rest
    simp [notBlank, notLetter, notNumber, notQuoted, next]
  | symbol noComment read =>
    have head : c ∈ Symbol.heads := by
      apply Classical.byContradiction
      intro other
      rw [Symbol.read?_eq_none_iff.mpr other] at read
      cases read
    obtain ⟨notBlank, notLetter, notNumber, notQuoted⟩ := other_of_mem_heads head rest
    obtain ⟨notLine, notBlock⟩ : ¬(c = '/' ∧ rest.head? = some '/') ∧
        ¬(c = '/' ∧ rest.head? = some '*') := by grind
    simp only [notBlank, notLetter, notNumber, notQuoted, notLine, notBlock, read,
      Bool.false_eq_true, if_false]
  | unknown notBlank notLetter notNumber notQuoted noSymbol =>
    have noSlash : c ≠ '/' := by
      rintro rfl
      exact Symbol.read?_eq_none_iff.mp noSymbol (by decide)
    simp [notBlank, notLetter, notNumber, notQuoted, noSymbol, noSlash]

/-! ## What stops an element -/

/-- A text after an element that does not continue it. -/
def Stops (element : Element) (after : List Char) : Prop :=
  match element with
  | .blank _ | .blockComment _ => True
  | .lineComment _ => ∀ d ∈ after.head?, d = '\n'
  | .unknown c => c = '_' → ∀ d ∈ after.head?, d.isDigit = false
  | .token reading text =>
    match reading.kind with
    | .charLiteral | .stringLiteral | .templateString => True
    | .numericLiteral | .floatLiteral | .binaryLiteral | .octalLiteral | .hexaLiteral =>
      Number.Ends after
    -- Words and symbols share a kind, so they are told apart by their first character.
    | .identifierName | .statement | .operator | .token | .unknown =>
      ∀ d ∈ after.head?, (if text.head?.any Text.isAlphabetic then Text.isAlphanumeric d
        else Symbol.continuedBy text d) = false

theorem stops_word_iff {c : Char} (letter : Text.isAlphabetic c = true) (word : String)
    (tail after : List Char) : (verbatim (Keyword.kindOf word) (c :: tail)).Stops after ↔
      ∀ d ∈ after.head?, Text.isAlphanumeric d = false := by
  rcases Keyword.kindOf_cases word with kind | kind | kind <;> rw [kind] <;>
    simp [verbatim, Stops, letter]

theorem stops_symbol_iff {text : List Char} {kind : Kind} (mem : (text, kind) ∈ Symbol.table)
    (after : List Char) : (verbatim kind text).Stops after ↔
      ∀ d ∈ after.head?, Symbol.continuedBy text d = false := by
  have all : Symbol.table.all (fun entry => (entry.2 = .token || entry.2 = .operator) &&
      !entry.1.head?.any Text.isAlphabetic) = true := by decide
  obtain ⟨same | same, other⟩ : (kind = .token ∨ kind = .operator) ∧
      text.head?.any Text.isAlphabetic = false := by
    simpa using List.all_eq_true.mp all _ mem
  · simp [verbatim, Stops, same, other]
  · simp [verbatim, Stops, same, other]

theorem stops_number_iff {kind : Kind} {mark digits : List Char}
    (written : Number.Written kind mark digits) (value : String) (text after : List Char) :
    (token ⟨kind, value⟩ text).Stops after ↔ Number.Ends after := by
  cases written with
  | decimal _ => exact Iff.rfl
  | float _ _ _ => exact Iff.rfl
  | marked mem _ _ => cases kind <;> first | exact Iff.rfl | cases mem

theorem stops_quoted {reading : Reading} {d : Char} (kind : reading.kind = Quoted.kindOf d)
    (text after : List Char) : (token reading text).Stops after := by
  unfold Stops Quoted.kindOf at *
  split at kind
  · simp [kind]
  split at kind <;> simp [kind]

section Rules

variable {strict : Bool} {c : Char} {tail after : List Char}

/-- A number ends where a number may end. -/
theorem stops_and_first_of_number {reading : Reading}
    (starts : startsNumber c (tail ++ after) = true)
    (ok : (Number.scan (c :: tail ++ after)).outcome = .ok reading)
    (covers : (Number.scan (c :: tail ++ after)).text = c :: tail) :
    (token reading (c :: tail)).Stops after ∧
      ∀ after', (token reading (c :: tail)).Stops after' →
        first strict c (tail ++ after') = .ok (token reading (c :: tail)) := by
  obtain ⟨kind, mark, digits, text, written, ends⟩ := Number.exists_written_of_scan_append ok covers
  have digit := Number.isDigit_of_scan starts ok
  have scan {after} (ends : Number.Ends after) := Number.scan_of_written written ends
  rw [← text] at scan
  rw [scan ends] at ok
  cases ok
  simp only [stops_number_iff written]
  refine ⟨ends, ?_⟩
  intro after' ends'
  have starts' : startsNumber c (tail ++ after') = true := by simp [startsNumber, digit]
  rw [(First.number starts').first_eq, ← List.cons_append, scan ends']
  rfl

/-- A quoted literal ends with its closing delimiter, whatever follows. -/
theorem first_of_quoted {reading : Reading} (starts : startsQuoted c = true)
    (ok : (Quoted.scan c (c :: (tail ++ after))).outcome = .ok reading)
    (covers : (Quoted.scan c (c :: (tail ++ after))).text = c :: tail) (after' : List Char) :
    first strict c (tail ++ after') = .ok (token reading (c :: tail)) := by
  obtain ⟨content, ⟨text, inside⟩, -⟩ := Quoted.exists_content_of_scan ok
  obtain rfl : tail = content ++ [c] := (List.cons.inj (covers.symm.trans text)).2
  have scan (after : List Char) := Quoted.scan_of_notMem inside c after
  have split (after : List Char) : content ++ [c] ++ after = content ++ c :: after := by simp
  rw [split, scan] at ok
  rw [(First.quoted starts).first_eq, split, scan]
  exact (ofScan_eq_ok_iff _ _).mpr ⟨reading, ok, rfl⟩

/-- A line comment ends before a line end, or with the source. -/
theorem stops_and_first_of_lineComment (slash : c = '/') (next : (tail ++ after).head? = some '/')
    (covers : Comment.line (tail ++ after) = tail) :
    (lineComment (c :: tail)).Stops after ∧
      ∀ after', (lineComment (c :: tail)).Stops after' →
        first strict c (tail ++ after') = .ok (lineComment (c :: tail)) := by
  obtain ⟨all, stop⟩ := takeWhile_append_eq_left_iff.mp covers
  refine ⟨fun d mem => by simpa using stop d mem, ?_⟩
  intro after' stops
  have second : (tail ++ after').head? = some '/' := by
    cases tail with
    | nil => exact absurd (stop '/' next) (by decide)
    | cons d tail => exact next
  have again : Comment.line (tail ++ after') = tail :=
    takeWhile_append_eq_left_iff.mpr ⟨all, fun d mem => by simp [stops d mem]⟩
  rw [(First.lineComment slash second).first_eq, again]

/-- A block comment ends with its closing mark, whatever follows. -/
theorem first_of_blockComment {element : Element} (slash : c = '/')
    (next : (tail ++ after).head? = some '*') (ok : block (tail ++ after) = .ok element)
    (covers : element.text = c :: tail) (after' : List Char) :
    first strict c (tail ++ after') = .ok element := by
  unfold block at ok
  split at ok <;> cases ok
  next n length =>
  have taken : (tail ++ after).take (n + 3) = tail := (List.cons.inj covers).2
  cases tail with
  | nil => cases after <;> simp at taken next
  | cons d body =>
    have whole : (body ++ after).take (n + 2) = body := (List.cons.inj taken).2
    have long : body.length = n + 2 := by
      obtain ⟨rest, left⟩ := Comment.drop_of_blockLength? length
      have more := congrArg List.length left
      simp only [List.cons_append, List.tail_cons, List.length_drop, List.length_cons] at more
      rw [← whole, List.length_take]
      omega
    have again := Comment.blockLength?_take_append length after'
    rw [List.cons_append, List.tail_cons, whole] at again
    have next' : (d :: body ++ after').head? = some '*' := next
    rw [(First.blockComment slash next').first_eq, block, List.cons_append, List.tail_cons, again]
    simp [← long]

/-- A symbol ends where nothing continues it. -/
theorem stops_and_first_of_symbol {kind : Kind}
    (noComment : ¬(c = '/' ∧ ((tail ++ after).head? = some '/' ∨ (tail ++ after).head? = some '*')))
    (read : Symbol.read? (c :: tail ++ after) = some (c :: tail, kind)) :
    (verbatim kind (c :: tail)).Stops after ∧
      ∀ after', (verbatim kind (c :: tail)).Stops after' →
        first strict c (tail ++ after') = .ok (verbatim kind (c :: tail)) := by
  have mem := Symbol.mem_table_of_read? read
  simp only [stops_symbol_iff mem]
  refine ⟨Symbol.continuedBy_of_read? read ?_, ?_⟩
  · rintro slash d next
    cases slash
    refine ⟨?_, ?_⟩ <;> rintro rfl
    · exact noComment ⟨rfl, .inl next⟩
    · exact noComment ⟨rfl, .inr next⟩
  · intro after' stops
    refine (First.symbol ?_ (Symbol.read?_append mem stops)).first_eq
    rintro ⟨rfl, next⟩
    cases tail with
    | nil =>
      rcases next with next | next
      · exact absurd (stops '/' next) (by decide)
      · exact absurd (stops '*' next) (by decide)
    | cons d tail => exact noComment ⟨rfl, next⟩

/-- **What follows an element stops it**, and the element is read again before any other text that
stops it. -/
theorem stops_and_first_of_stops {element : Element}
    (found : first strict c (tail ++ after) = .ok element) (covers : element.text = c :: tail) :
    element.Stops after ∧
      ∀ after', element.Stops after' → first strict c (tail ++ after') = .ok element := by
  have spec := first_spec strict c (tail ++ after)
  generalize first strict c (tail ++ after) = result at spec found
  cases spec with
  | blank white =>
    cases found
    exact ⟨trivial, fun _ _ => (First.blank white).first_eq⟩
  | word notBlank letter =>
    cases found
    have whole : (tail ++ after).takeWhile Text.isAlphanumeric = tail := (List.cons.inj covers).2
    obtain ⟨all, stop⟩ := takeWhile_append_eq_left_iff.mp whole
    rw [word, whole]
    simp only [stops_word_iff letter]
    refine ⟨stop, ?_⟩
    intro after' stops
    rw [(First.word notBlank letter).first_eq, word, takeWhile_append_eq_left_iff.mpr ⟨all, stops⟩]
  | number starts =>
    obtain ⟨reading, ok, rfl⟩ := (ofScan_eq_ok_iff _ _).mp found
    have whole : (Number.scan (c :: (tail ++ after))).text = c :: tail := covers
    rw [whole]
    exact stops_and_first_of_number starts ok whole
  | quoted starts =>
    obtain ⟨reading, ok, rfl⟩ := (ofScan_eq_ok_iff _ _).mp found
    have whole : (Quoted.scan c (c :: (tail ++ after))).text = c :: tail := covers
    obtain ⟨-, -, kind, -⟩ := Quoted.exists_content_of_scan ok
    rw [whole]
    exact ⟨stops_quoted kind _ _, fun after' _ => first_of_quoted starts ok whole after'⟩
  | lineComment slash next =>
    cases found
    have whole : Comment.line (tail ++ after) = tail := (List.cons.inj covers).2
    rw [whole]
    exact stops_and_first_of_lineComment slash next whole
  | blockComment slash next =>
    have stops (after' : List Char) : element.Stops after' := by
      unfold block at found
      split at found <;> cases found
      trivial
    exact ⟨stops after, fun after' _ => first_of_blockComment slash next found covers after'⟩
  | symbol noComment read =>
    cases found
    obtain rfl : _ = c :: tail := covers
    exact stops_and_first_of_symbol noComment read
  | unknown notBlank notLetter notNumber notQuoted noSymbol =>
    split at found <;> cases found
    next lenient =>
    obtain rfl : [] = tail := (List.cons.inj covers).2
    obtain ⟨notDigit, noSeparator⟩ := Bool.or_eq_false_iff.mp notNumber
    refine ⟨?_, ?_⟩
    · rintro rfl d next
      simpa [Option.mem_def.mp next] using noSeparator
    · intro after' stops
      have noNumber : startsNumber c after' = false := by
        cases after' with
        | nil => simp [startsNumber, notDigit]
        | cons d after' => simpa [startsNumber, notDigit] using fun eq => stops eq d rfl
      have noSymbol : Symbol.read? (c :: after') = none :=
        Symbol.read?_eq_none_iff.mpr (Symbol.read?_eq_none_iff.mp noSymbol)
      rw [List.nil_append, (First.unknown notBlank notLetter noNumber notQuoted noSymbol).first_eq,
        if_neg lenient]

end Rules

/-- An element that is read in one place is read in another exactly if what follows stops it. -/
theorem first_append_iff_stops {strict : Bool} {c : Char} {tail after : List Char}
    {element : Element} (found : first strict c (tail ++ after) = .ok element)
    (covers : element.text = c :: tail) (after' : List Char) :
    first strict c (tail ++ after') = .ok element ↔ element.Stops after' :=
  ⟨fun again => (stops_and_first_of_stops again covers).1,
    (stops_and_first_of_stops found covers).2 after'⟩

/-- The text of an element starts with the character it is read from. -/
theorem exists_tail_of_first {strict : Bool} {c : Char} {rest after : List Char} {element : Element}
    (found : first strict c rest = .ok element) (split : c :: rest = element.text ++ after) :
    ∃ tail, element.text = c :: tail ∧ rest = tail ++ after := by
  cases covers : element.text with
  | nil => exact absurd covers (text_first_ne_nil found)
  | cons d tail =>
    rw [covers] at split
    obtain ⟨rfl, rest⟩ := List.cons.inj split
    exact ⟨tail, rfl, rest⟩

/-- What follows an element stops it. -/
theorem stops_of_first {strict : Bool} {c : Char} {rest after : List Char} {element : Element}
    (found : first strict c rest = .ok element) (split : c :: rest = element.text ++ after) :
    element.Stops after := by
  obtain ⟨tail, covers, rfl⟩ := exists_tail_of_first found split
  exact (stops_and_first_of_stops found covers).1

/-- Only the first character of what follows an element tells whether it stops the element, and after
a point whether another one comes. -/
theorem Stops.of_head {element : Element} {d : Char} {rest rest' : List Char}
    (stops : element.Stops (d :: rest))
    (points : d = '.' → rest.head? = some '.' → rest'.head? = some '.') :
    element.Stops (d :: rest') := by
  have ends (ends : Number.Ends (d :: rest)) : Number.Ends (d :: rest') := by
    refine ends.imp_right ?_
    rintro ⟨point, second⟩
    exact ⟨point, points point second⟩
  cases element with
  | blank _ | blockComment _ => trivial
  | lineComment _ | unknown _ => exact stops
  | token reading text =>
    obtain ⟨kind, value⟩ := reading
    cases kind <;> first | exact stops | exact ends stops

/-- More text at the end of what follows an element changes nothing. -/
theorem Stops.append {element : Element} {after : List Char} (stops : element.Stops after)
    (nonempty : after ≠ []) (more : List Char) : element.Stops (after ++ more) := by
  cases after with
  | nil => exact absurd rfl nonempty
  | cons d rest =>
    rw [List.cons_append]
    refine stops.of_head ?_
    intro _ second
    rw [List.head?_append, second]
    rfl

/-- **A blank stops every element**, except that a line comment goes on up to the line end; so does
the end of the source. -/
theorem stops_of_isBlank {element : Element} {after : List Char}
    (white : ∀ d ∈ after.head?, Text.isBlank d = true)
    (line : ∀ text, element = .lineComment text → ∀ d ∈ after.head?, d = '\n') :
    element.Stops after := by
  cases element with
  | blank _ | blockComment _ => trivial
  | lineComment text => exact line text rfl
  | unknown c =>
    rintro - d mem
    apply Bool.eq_false_iff.mpr
    intro digit
    have word := Text.isAlphanumeric_of_isBlank (white d mem)
    simp [Text.isAlphanumeric, Text.isNumeric_of_isDigit digit] at word
  | token reading text =>
    have stop : ∀ d ∈ after.head?, (if text.head?.any Text.isAlphabetic then Text.isAlphanumeric d
        else Symbol.continuedBy text d) = false := by
      intro d mem
      split
      · exact Text.isAlphanumeric_of_isBlank (white d mem)
      · exact Symbol.continuedBy_of_isBlank (white d mem) text
    obtain ⟨kind, value⟩ := reading
    cases kind with
    | charLiteral | stringLiteral | templateString => trivial
    | numericLiteral | floatLiteral | binaryLiteral | octalLiteral | hexaLiteral =>
      exact Number.ends_of_isBlank white
    | identifierName | statement | operator | token | unknown => exact stop

/-- The end of the source stops every element. -/
theorem stops_nil (element : Element) : element.Stops [] :=
  stops_of_isBlank (by simp) (by simp)

end Element

/-! ## Rows -/

/-- An element that is read in one place is read in front of any row whose text stops it. -/
theorem Cut.cons {strict : Bool} {c : Char} {rest other : List Char} {element : Element}
    {elements : List Element} {fault? : Option Fault}
    (found : Element.first strict c rest = .ok element) (stops : element.Stops other)
    (later : Cut strict other elements fault?) :
    Cut strict (element.text ++ other) (element :: elements) fault? := by
  obtain ⟨after, split⟩ := Element.text_first_isPrefix found
  obtain ⟨tail, covers, rfl⟩ := Element.exists_tail_of_first found split.symm
  have again := (Element.first_append_iff_stops found covers other).mpr stops
  have cut : Cut strict (c :: (tail ++ other)) (element :: elements) fault? :=
    .moved again (by rw [covers]; rfl) later
  rwa [covers]

/-- An element is read from its own text alone. -/
theorem Cut.alone {strict : Bool} {c : Char} {rest : List Char} {element : Element}
    (found : Element.first strict c rest = .ok element) :
    Cut strict element.text [element] none := by
  have cut := Cut.cons found element.stops_nil .done
  rwa [List.append_nil] at cut

/-- One more element in front of a row, with a text after the row. -/
theorem Cut.moved_append {strict : Bool} {c : Char} {rest after more : List Char}
    {element : Element} {elements : List Element} {fault? : Option Fault}
    (found : Element.first strict c rest = .ok element) (split : c :: rest = element.text ++ after)
    (stops : after = [] → element.Stops more) (later : Cut strict (after ++ more) elements fault?) :
    Cut strict (c :: rest ++ more) (element :: elements) fault? := by
  have stops : element.Stops (after ++ more) := by
    by_cases last : after = []
    · rw [last]
      exact stops last
    · exact (Element.stops_of_first found split).append last more
  rw [split, List.append_assoc]
  exact .cons found stops later

/-- **Rows are put together** where the last element of the first one is stopped. -/
theorem Cut.append {strict : Bool} {text more : List Char} {elements later : List Element}
    {fault? : Option Fault} (cut : Cut strict text elements none)
    (next : Cut strict more later fault?)
    (stops : ∀ element ∈ elements.getLast?, element.Stops more) :
    Cut strict (text ++ more) (elements ++ later) fault? := by
  generalize ended : (none : Option Fault) = fault at cut
  induction cut with
  | done => exact next
  | failed _ => cases ended
  | @moved c rest after element elements _ found split tail ih =>
    subst ended
    refine .moved_append found split ?_ (ih ?_ rfl)
    · rintro rfl
      cases tail
      exact stops element rfl
    · intro other last
      refine stops other ?_
      rw [List.getLast?_cons, Option.mem_def.mp last]
      rfl

end Lexeme
