import Mathlib
import Lexeme.Number

/-!
# The grammar of numbers

What a number looks like, said without the scan, and the proof that the scan reads exactly that.

## Main Definitions

* `Kind.markers`, `Kind.digits` — the letters after a leading zero and the digits of each base
* `Number.IsBody` — digits in which every `_` stands between two decimal digits
* `Number.Written` — the written numbers, as the mark of a base and the digits after it
* `Number.Ends` — what may follow a number
* `Number.Advances`, `Number.Refuses` — what `Number.body` does at one character
* `Number.Passes` — what `Number.body` passes over when it refuses nothing

## Design Notes

The scan and the grammar meet in `Passes`, which has the scan's two pieces of state, the form known
so far and the character just passed, and no lookahead into the text after the number.
`body_cons_cases` says once what the scan does at a character; from it, `body_eq_of_passes` and
`exists_passes_of_body` tie `Passes` to the scan. `run_of_passes` and `passes_of_run` tie it to the
grammar.

Soundness only has to find *some* written number at the front of the text: `scan_of_written` then
says what the scan makes of it, so kind, value and length come from completeness alone.
-/

namespace Lexeme

namespace Kind

/-- The letters that announce the base of a kind after a leading zero. -/
def markers : Kind → List Char
  | binaryLiteral => ['b', 'B']
  | octalLiteral => ['o', 'O']
  | hexaLiteral => ['x', 'X']
  | _ => []

/-- The digits that the numbers of a kind are written with. -/
def digits : Kind → List Char
  | binaryLiteral => ['0', '1']
  | octalLiteral => ['0', '1', '2', '3', '4', '5', '6', '7']
  | hexaLiteral =>
    ['0', '1', '2', '3', '4', '5', '6', '7', '8', '9',
     'a', 'b', 'c', 'd', 'e', 'f', 'A', 'B', 'C', 'D', 'E', 'F']
  | _ => ['0', '1', '2', '3', '4', '5', '6', '7', '8', '9']

end Kind

namespace Number

/-! ## The grammar -/

/-- A text of digits and separators in which every separator has an ASCII decimal digit right
before and right after it, whatever the digits are. -/
structure IsBody (digits text : List Char) : Prop where
  /-- There are digits and separators only. -/
  mem : ∀ c ∈ text, c ∈ digits ∨ c = '_'
  /-- Every separator stands between two decimal digits. -/
  separated : ∀ before after, text = before ++ '_' :: after →
    before.getLast?.any Char.isDigit = true ∧ after.head?.any Char.isDigit = true

/-- A decimal integer: a lone zero, or digits that do not start with a zero. -/
structure IsWhole (text : List Char) : Prop where
  /-- The integer has at least one digit. -/
  ne_nil : text ≠ []
  /-- It is written with decimal digits. -/
  body : IsBody Kind.numericLiteral.digits text
  /-- Nothing follows a leading zero. -/
  leading : text = ['0'] ∨ text.head? ≠ some '0'

/-- The written numbers of a kind, as the mark of the base and the digits after it. -/
inductive Written : Kind → List Char → List Char → Prop
  /-- A decimal integer. -/
  | decimal {whole : List Char} (integer : IsWhole whole) : Written .numericLiteral [] whole
  /-- A point with digits after it, and perhaps an integer before it. -/
  | float {whole fraction : List Char} (integer : whole = [] ∨ IsWhole whole)
      (nonempty : fraction ≠ []) (body : IsBody Kind.floatLiteral.digits fraction) :
      Written .floatLiteral [] (whole ++ '.' :: fraction)
  /-- A zero, a letter for the base and digits of that base. -/
  | marked {kind : Kind} {marker : Char} {digits : List Char} (mem : marker ∈ kind.markers)
      (nonempty : digits ≠ []) (body : IsBody kind.digits digits) :
      Written kind ['0', marker] digits

/-- What may follow a number: nothing, a character that cannot be part of one, or two points. -/
def Ends : List Char → Prop
  | [] => True
  | c :: rest =>
    (c.isAlphanum = false ∧ c ≠ '_' ∧ c ≠ '.') ∨ (c = '.' ∧ rest.head? = some '.')

/-! ## Digits -/

/-- A form accepts the digits of its kind. -/
theorem accepts_iff_mem (form : Form) (c : Char) : form.accepts c = true ↔ c ∈ form.kind.digits := by
  cases form <;>
    simp [Form.accepts, Form.kind, Kind.digits, isHexDigit, Char.isDigit, Char.le_def,
      Char.ext_iff, UInt32.le_iff_toNat_le, ← UInt32.toNat_inj] <;> omega

theorem ne_of_mem_digits {kind : Kind} {c : Char} (mem : c ∈ kind.digits) :
    c ≠ '_' ∧ c ≠ '.' ∧ c.isAlphanum = true := by
  have all : kind.digits.all (fun c => c ≠ '_' ∧ c ≠ '.' ∧ c.isAlphanum = true) = true := by
    cases kind <;> rfl
  exact of_decide_eq_true (List.all_eq_true.mp all c mem)

/-- A letter announces a form exactly when it is a marker of its kind. -/
theorem ofMarker?_eq_some_iff (marker : Char) (form : Form) :
    Form.ofMarker? marker = some form ↔ marker ∈ form.kind.markers := by
  unfold Form.ofMarker?
  cases form <;> simp only [Form.kind, Kind.markers] <;> grind

/-- A marker is a letter, so no number of base ten ends before it. -/
theorem isAlphanum_of_mem_markers {kind : Kind} {marker : Char} (mem : marker ∈ kind.markers) :
    marker.isAlphanum = true := by
  have all : kind.markers.all Char.isAlphanum = true := by
    cases kind <;> rfl
  exact List.all_eq_true.mp all marker mem

/-- Every marker announces a form, which has a mark of two characters. -/
theorem exists_form_of_mem_markers {kind : Kind} {marker : Char} (mem : marker ∈ kind.markers) :
    ∃ form, Form.ofMarker? marker = some form ∧ form.kind = kind ∧ form.markLength = 2 := by
  obtain ⟨form, rfl, length⟩ : ∃ form : Form, form.kind = kind ∧ form.markLength = 2 := by
    cases kind with
    | binaryLiteral => exact ⟨.binary, rfl, rfl⟩
    | octalLiteral => exact ⟨.octal, rfl, rfl⟩
    | hexaLiteral => exact ⟨.hexadecimal, rfl, rfl⟩
    | _ => cases mem
  exact ⟨form, (ofMarker?_eq_some_iff marker form).mpr mem, rfl, length⟩

/-- No marker is a digit of its base, nor a decimal digit. -/
theorem not_digit_of_mem_markers {kind : Kind} {marker : Char} (mem : marker ∈ kind.markers) :
    marker ∉ kind.digits ∧ marker.isDigit = false := by
  have all : kind.markers.all (fun c => c ∉ kind.digits ∧ c.isDigit = false) = true := by
    cases kind <;> rfl
  exact of_decide_eq_true (List.all_eq_true.mp all marker mem)

/-! ## What a body passes over -/

/-- Digits and separators of one form, read after the character `last`. -/
inductive Run (form : Form) : Option Char → List Char → Prop
  | nil {last : Option Char} : Run form last []
  | digit {last : Option Char} {c : Char} {text : List Char} (accepted : form.accepts c = true)
      (later : Run form (some c) text) : Run form last (c :: text)
  | separator {last : Option Char} {text : List Char} (before : last.any Char.isDigit = true)
      (after : text.head?.any Char.isDigit = true) (later : Run form (some '_') text) :
      Run form last ('_' :: text)

/-- `Passes form last text form'`: a scan that knows `form` and has just passed `last` passes over
`text` and can end there, knowing `form'`. -/
inductive Passes : Form → Option Char → List Char → Form → Prop
  | close {form : Form} {last : Char} (accepted : form.accepts last = true) :
      Passes form (some last) [] form
  | digit {form form' : Form} {last : Option Char} {c : Char} {text : List Char}
      (accepted : form.accepts c = true) (later : Passes form (some c) text form') :
      Passes form last (c :: text) form'
  | separator {form form' : Form} {last : Option Char} {text : List Char}
      (before : last.any Char.isDigit = true) (after : text.head?.any Char.isDigit = true)
      (later : Passes form (some '_') text form') : Passes form last ('_' :: text) form'
  | point {form' : Form} {last : Option Char} {text : List Char}
      (later : Passes .float (some '.') text form') : Passes .decimal last ('.' :: text) form'

theorem ne_of_accepts {form : Form} {c : Char} (accepted : form.accepts c = true) :
    c ≠ '_' ∧ c ≠ '.' ∧ c.isAlphanum = true :=
  ne_of_mem_digits ((accepts_iff_mem form c).mp accepted)

theorem close_of_accepts {form : Form} {last : Char} (accepted : form.accepts last = true) :
    close form (some last) = .ok form := by
  simp [close, accepted]

/-! One equation of `body` for each way to go on. -/

theorem body_digit {form : Form} {c : Char} (accepted : form.accepts c = true)
    (last : Option Char) (rest : List Char) :
    body form last (c :: rest) = (body form (some c) rest).push c := by
  obtain ⟨notSeparator, notPoint, alphanum⟩ := ne_of_accepts accepted
  simp [body, notSeparator, notPoint, alphanum, accepted]

theorem body_separator {last : Option Char} {rest : List Char}
    (before : last.any Char.isDigit = true) (after : rest.head?.any Char.isDigit = true)
    (form : Form) : body form last ('_' :: rest) = (body form (some '_') rest).push '_' := by
  have single : rest.head? ≠ some '_' := by
    intro second
    rw [second] at after
    exact absurd after (by decide)
  simp [body, single, before, after]

theorem body_point {rest : List Char} (single : rest.head? ≠ some '.') (last : Option Char) :
    body .decimal last ('.' :: rest) = (body .float (some '.') rest).push '.' := by
  simp [body, single]

theorem body_malformed {form : Form} {c : Char} (alphanum : c.isAlphanum = true)
    (noDigit : form.accepts c = false) (last : Option Char) (rest : List Char) :
    body form last (c :: rest) = ⟨[], .error (form.malformed c)⟩ := by
  have notSeparator : c ≠ '_' := by rintro rfl; cases alphanum
  have notPoint : c ≠ '.' := by rintro rfl; cases alphanum
  simp [body, notSeparator, notPoint, alphanum, noDigit]

/-- A body ends where a number may end. -/
theorem body_of_ends (form : Form) (last : Option Char) {after : List Char} (ends : Ends after) :
    body form last after = ⟨[], close form last⟩ := by
  cases after with
  | nil => rfl
  | cons c rest =>
    rcases ends with ⟨other, notSeparator, notPoint⟩ | ⟨rfl, second⟩
    · simp [body, notSeparator, notPoint, other]
    · simp [body, second]

/-! ## One character of a body -/

/-- `Advances form last c rest form'`: between `last` and `rest`, a scan that knows `form` passes over
`c`, and knows `form'` then. -/
inductive Advances : Form → Option Char → Char → List Char → Form → Prop
  | digit {form : Form} {last : Option Char} {c : Char} {rest : List Char}
      (accepted : form.accepts c = true) : Advances form last c rest form
  | separator {form : Form} {last : Option Char} {rest : List Char}
      (before : last.any Char.isDigit = true) (after : rest.head?.any Char.isDigit = true) :
      Advances form last '_' rest form
  | point {last : Option Char} {rest : List Char} (single : rest.head? ≠ some '.') :
      Advances .decimal last '.' rest .float

/-- `Refuses form c rest cause`: a scan that knows `form` may refuse `c` in front of `rest`, and does
so for `cause`. -/
inductive Refuses (form : Form) : Char → List Char → Cause → Prop
  | double {rest : List Char} (second : rest.head? = some '_') :
      Refuses form '_' rest (.misplacedOrDuplicateSeparator true)
  | misplaced {rest : List Char} (single : rest.head? ≠ some '_') :
      Refuses form '_' rest (.misplacedOrDuplicateSeparator false)
  | secondPoint {rest : List Char} (known : form = .float) (single : rest.head? ≠ some '.') :
      Refuses form '.' rest .multipleFloatDots
  | markedPoint {rest : List Char} (marked : form ≠ .decimal ∧ form ≠ .float)
      (single : rest.head? ≠ some '.') : Refuses form '.' rest .floatOnBasePrefixedLiteral
  | other {c : Char} {rest : List Char} (alphanum : c.isAlphanum = true)
      (noDigit : form.accepts c = false) : Refuses form c rest (form.malformed c)

theorem body_of_advances {form form' : Form} {last : Option Char} {c : Char} {rest : List Char}
    (advances : Advances form last c rest form') :
    body form last (c :: rest) = (body form' (some c) rest).push c := by
  cases advances with
  | digit accepted => exact body_digit accepted last rest
  | separator before after => exact body_separator before after form
  | point single => exact body_point single last

/-- **What the scan of a body does at a character**: it passes it, ends in front of it, or refuses
it. -/
theorem body_cons_cases (form : Form) (last : Option Char) (c : Char) (rest : List Char) :
    (∃ form', Advances form last c rest form') ∨
    (Ends (c :: rest) ∧ body form last (c :: rest) = ⟨[], close form last⟩) ∨
    ∃ cause, Refuses form c rest cause ∧ body form last (c :: rest) = ⟨[], .error cause⟩ := by
  generalize scanned : body form last (c :: rest) = result
  -- The cases are the tests of `body`.
  unfold body at scanned
  split at scanned
  · next separator =>
    subst separator
    split at scanned
    · next double => exact .inr (.inr ⟨_, .double double, scanned.symm⟩)
    next single =>
    split at scanned
    · next between =>
      obtain ⟨before, after⟩ := Bool.and_eq_true_iff.mp between
      exact .inl ⟨form, .separator before after⟩
    · exact .inr (.inr ⟨_, .misplaced single, scanned.symm⟩)
  next notSeparator =>
  split at scanned
  · next point =>
    subst point
    split at scanned
    · next second => exact .inr (.inl ⟨.inr ⟨rfl, second⟩, scanned.symm⟩)
    next single =>
    split at scanned
    · exact .inl ⟨.float, .point single⟩
    · exact .inr (.inr ⟨_, .secondPoint rfl single, scanned.symm⟩)
    · next notDecimal notFloat =>
      exact .inr (.inr ⟨_, .markedPoint ⟨notDecimal, notFloat⟩ single, scanned.symm⟩)
  next notPoint =>
  split at scanned
  · next alphanum =>
    split at scanned
    · next accepted => exact .inl ⟨form, .digit accepted⟩
    · next noDigit =>
      exact .inr (.inr ⟨_, .other alphanum (Bool.eq_false_iff.mpr noDigit), scanned.symm⟩)
  · next other =>
    have ends : Ends (c :: rest) := .inl ⟨Bool.eq_false_iff.mpr other, notSeparator, notPoint⟩
    exact .inr (.inl ⟨ends, scanned.symm⟩)

/-! ## A body passes over what `Passes` allows -/

theorem head?_append_of_any {text : List Char} {p : Char → Bool}
    (some : text.head?.any p = true) (after : List Char) :
    (text ++ after).head?.any p = true := by
  cases text with
  | nil => cases some
  | cons c rest => exact some

/-- What follows a point in a number is not another point. -/
theorem head?_ne_point_of_passes {form : Form} {text : List Char}
    (passes : Passes .float (some '.') text form) (after : List Char) :
    (text ++ after).head? ≠ some '.' := by
  cases passes with
  | close accepted => exact absurd rfl (ne_of_accepts accepted).2.1
  | digit accepted _ => simpa using (ne_of_accepts accepted).2.1
  | separator _ _ _ => simp

/-- Behind what `Passes` allows, the scan goes on as behind its last digit. -/
theorem body_append_of_passes {form form' : Form} {last : Option Char} {text : List Char}
    (passes : Passes form last text form') (after : List Char) :
    ∃ digit, form'.accepts digit = true ∧ body form last (text ++ after) =
      ⟨text ++ (body form' (some digit) after).text, (body form' (some digit) after).outcome⟩ := by
  induction passes with
  | @close _ digit accepted => exact ⟨digit, accepted, rfl⟩
  | digit accepted _ ih =>
    obtain ⟨digit, closing, onward⟩ := ih
    exact ⟨digit, closing, by rw [List.cons_append, body_digit accepted, onward]; rfl⟩
  | separator before next _ ih =>
    obtain ⟨digit, closing, onward⟩ := ih
    have next := head?_append_of_any next after
    exact ⟨digit, closing, by rw [List.cons_append, body_separator before next, onward]; rfl⟩
  | point later ih =>
    obtain ⟨digit, closing, onward⟩ := ih
    have single := head?_ne_point_of_passes later after
    exact ⟨digit, closing, by rw [List.cons_append, body_point single, onward]; rfl⟩

/-- **Completeness of a body.**  The scan passes over all that `Passes` allows, if a number may end
after it. -/
theorem body_eq_of_passes {form form' : Form} {last : Option Char} {text after : List Char}
    (passes : Passes form last text form') (ends : Ends after) :
    body form last (text ++ after) = ⟨text, .ok form'⟩ := by
  obtain ⟨digit, closing, onward⟩ := body_append_of_passes passes after
  rw [onward, body_of_ends _ _ ends, close_of_accepts closing, List.append_nil]

theorem passes_of_close {form form' : Form} {last : Option Char}
    (ok : close form last = .ok form') : Passes form last [] form' := by
  unfold close at ok
  split at ok
  · cases ok
  · split at ok
    · next accepted => cases ok; exact .close accepted
    · cases ok

/-- After a separator the scan goes on: the digit that was seen ahead is in the text passed. -/
theorem head?_of_passes_separator {form form' : Form} {text after : List Char}
    (passes : Passes form (some '_') text form')
    (next : (text ++ after).head?.any Char.isDigit = true) :
    text.head?.any Char.isDigit = true := by
  cases passes with
  | close accepted => exact absurd rfl (ne_of_accepts accepted).1
  | digit _ _ => exact next
  | separator before _ _ => exact absurd before (by decide)
  | point _ => exact next

/-- **Soundness of a body.**  A body that is not refused has passed over what `Passes` allows, and a
number may end where it stopped. -/
theorem exists_passes_of_body {form form' : Form} {last : Option Char} {source : List Char}
    (ok : (body form last source).outcome = .ok form') :
    ∃ text after, source = text ++ after ∧ Ends after ∧ Passes form last text form' := by
  induction source generalizing form last with
  | nil => exact ⟨[], [], rfl, trivial, passes_of_close ok⟩
  | cons c rest ih =>
    rcases body_cons_cases form last c rest with
      ⟨form₁, advances⟩ | ⟨ends, stopped⟩ | ⟨cause, -, refused⟩
    · rw [body_of_advances advances] at ok
      obtain ⟨text, after, rfl, ends, passes⟩ := ih ok
      refine ⟨c :: text, after, rfl, ends, ?_⟩
      cases advances with
      | digit accepted => exact .digit accepted passes
      | separator before next =>
        exact .separator before (head?_of_passes_separator passes next) passes
      | point _ => exact .point passes
    · rw [stopped] at ok
      exact ⟨[], c :: rest, rfl, ends, passes_of_close ok⟩
    · rw [refused] at ok
      cases ok

/-! ## What `Passes` allows is the grammar -/

/-- In a body no separator comes first, so it may be read after any character. -/
theorem run_of_isBody (form : Form) {text : List Char} (body : IsBody form.kind.digits text)
    (last : Option Char) : Run form last text := by
  -- The induction is on what is left of the body after `before`.
  suffices suffix : ∀ before, IsBody form.kind.digits (before ++ text) →
      Run form (before.getLast?.or last) text from suffix [] body
  clear body
  induction text with
  | nil => exact fun _ _ => .nil
  | cons c text ih =>
    intro before body
    have later := ih (before ++ [c]) (by simpa using body)
    rw [List.getLast?_concat, Option.some_or] at later
    rcases body.mem c (by simp) with digit | rfl
    · exact .digit ((accepts_iff_mem form c).mpr digit) later
    · obtain ⟨previous, next⟩ := body.separated before text rfl
      cases eq : before.getLast? with
      | none => rw [eq] at previous; cases previous
      | some d => exact .separator (by rwa [eq] at previous) next later

/-- The digits and separators of a run, with the character before them. -/
theorem mem_and_separated_of_run {form : Form} {last : Option Char} {text : List Char}
    (run : Run form last text) :
    (∀ c ∈ text, c ∈ form.kind.digits ∨ c = '_') ∧
      ∀ before after, text = before ++ '_' :: after →
        (before.getLast?.or last).any Char.isDigit = true ∧
          after.head?.any Char.isDigit = true := by
  induction run with
  | nil =>
    refine ⟨nofun, ?_⟩
    intro before after split
    exact absurd split.symm (by simp)
  | @digit last c text accepted _ ih =>
    obtain ⟨mem, separated⟩ := ih
    refine ⟨List.forall_mem_cons.mpr ⟨.inl ((accepts_iff_mem form c).mp accepted), mem⟩, ?_⟩
    -- The digit itself is no separator, so `before` starts with it.
    intro before after split
    cases before with
    | nil => exact absurd (List.cons.inj split).1 (ne_of_accepts accepted).1
    | cons b before =>
      obtain ⟨rfl, tail⟩ := List.cons.inj split
      have := separated before after tail
      cases eq : before.getLast? <;> simp_all [List.getLast?_cons]
  | @separator last text previous next _ ih =>
    obtain ⟨mem, separated⟩ := ih
    refine ⟨List.forall_mem_cons.mpr ⟨.inr rfl, mem⟩, ?_⟩
    -- The separator is this one, after `last`, or one of the rest of the run.
    intro before after split
    cases before with
    | nil =>
      obtain ⟨-, rfl⟩ := List.cons.inj split
      exact ⟨previous, next⟩
    | cons b before =>
      obtain ⟨rfl, tail⟩ := List.cons.inj split
      have := separated before after tail
      cases eq : before.getLast? <;> simp_all [List.getLast?_cons]

/-- A run after anything but a decimal digit is a body. -/
theorem isBody_of_run {form : Form} {last : Option Char} {text : List Char}
    (run : Run form last text) (first : last.any Char.isDigit = false) :
    IsBody form.kind.digits text := by
  obtain ⟨mem, separated⟩ := mem_and_separated_of_run run
  refine ⟨mem, ?_⟩
  intro before after split
  obtain ⟨previous, next⟩ := separated before after split
  refine ⟨?_, next⟩
  cases eq : before.getLast? with
  | none => rw [eq, Option.none_or, first] at previous; cases previous
  | some d => rwa [eq, Option.some_or] at previous

/-- A run that ends in a digit of the form is passed. -/
theorem passes_of_run {form : Form} {last : Option Char} {text : List Char}
    (run : Run form last text) (closed : text = [] → last.any form.accepts = true) :
    Passes form last text form := by
  induction run with
  | @nil last =>
    cases last with
    | none => cases closed rfl
    | some c => exact .close (closed rfl)
  | digit accepted _ ih => exact .digit accepted (ih fun _ => accepted)
  | separator previous next _ ih =>
    refine .separator previous next (ih ?_)
    rintro rfl
    cases next

/-- A decimal run, a point and a fraction are passed. -/
theorem passes_of_run_point {last : Option Char} {whole fraction : List Char}
    (run : Run .decimal last whole) (later : Passes .float (some '.') fraction .float) :
    Passes .decimal last (whole ++ '.' :: fraction) .float := by
  induction run with
  | nil => exact .point later
  | digit accepted _ ih => exact .digit accepted ih
  | separator previous next _ ih =>
    exact .separator previous (head?_append_of_any next _) ih

/-- **What is passed** is a run of the form known at the start that ends in a digit, or a decimal
run, a point and at least one digit. -/
theorem run_of_passes {form form' : Form} {last : Option Char} {text : List Char}
    (passes : Passes form last text form') :
    (form' = form ∧ Run form last text ∧ (text = [] → last.any form.accepts = true)) ∨
      (form = .decimal ∧ form' = .float ∧ ∃ whole fraction, text = whole ++ '.' :: fraction ∧
        fraction ≠ [] ∧ Run .decimal last whole ∧ Run .float (some '.') fraction) := by
  induction passes with
  | close accepted => exact .inl ⟨rfl, .nil, fun _ => accepted⟩
  | @digit _ _ _ c _ accepted _ ih =>
    rcases ih with ⟨rfl, run, -⟩ | ⟨rfl, rfl, whole, fraction, rfl, nonempty, run, later⟩
    · exact .inl ⟨rfl, .digit accepted run, nofun⟩
    · exact .inr ⟨rfl, rfl, c :: whole, fraction, rfl, nonempty, .digit accepted run, later⟩
  | separator previous next _ ih =>
    rcases ih with ⟨rfl, run, -⟩ | ⟨rfl, rfl, whole, fraction, rfl, nonempty, run, later⟩
    · exact .inl ⟨rfl, .separator previous next run, nofun⟩
    · cases whole with
      | nil => cases next
      | cons c whole =>
        exact .inr ⟨rfl, rfl, '_' :: c :: whole, fraction, rfl, nonempty,
          .separator previous next run, later⟩
  | @point _ _ text _ ih =>
    rcases ih with ⟨rfl, run, closed⟩ | ⟨known, -⟩
    · refine .inr ⟨rfl, rfl, [], text, rfl, ?_, .nil, run⟩
      intro empty
      exact absurd (closed empty) (by decide)
    · cases known

/-! ## The scan of a number -/

/-- A text in which no leading zero is followed by a letter, a digit or a separator. -/
def Bare (source : List Char) : Prop :=
  ∀ marker rest, source = '0' :: marker :: rest → marker.isAlphanum = false ∧ marker ≠ '_'

/-- Any other text starts with a zero and a mark, or what stands in the place of one. -/
theorem exists_marker_of_not_bare {source : List Char} (notBare : ¬Bare source) :
    ∃ marker rest, source = '0' :: marker :: rest ∧
      ¬(marker.isAlphanum = false ∧ marker ≠ '_') := by
  simpa [Bare] using notBare

/-- Without a mark the scan of a number is the scan of a decimal body. -/
theorem scan_of_bare {source : List Char} (bare : Bare source) :
    scan source = (body .decimal none source).toScan [] := by
  unfold scan
  split
  · next zero marker rest =>
    split
    · next isZero =>
      subst isZero
      obtain ⟨other, notSeparator⟩ := bare marker rest rfl
      cases known : Form.ofMarker? marker with
      | none => simp [other, notSeparator]
      | some form =>
        have letter := isAlphanum_of_mem_markers ((ofMarker?_eq_some_iff marker form).mp known)
        rw [other] at letter
        cases letter
    · rfl
  · rfl

/-- After a mark the scan of a number is the scan of a body of the announced form. -/
theorem scan_of_marker {marker : Char} {form : Form} (known : Form.ofMarker? marker = some form)
    (rest : List Char) :
    scan ('0' :: marker :: rest) = (body form (some marker) rest).toScan ['0', marker] := by
  simp [scan, known]

/-- Any other letter or digit after a leading zero is refused, and so is a separator. -/
theorem scan_of_no_marker {marker : Char} (unknown : Form.ofMarker? marker = none)
    (refused : ¬(marker.isAlphanum = false ∧ marker ≠ '_')) (rest : List Char) :
    scan ('0' :: marker :: rest) = ⟨['0'], 0, .error ⟨['0'], .invalidBaseMarker marker⟩⟩ := by
  have : marker.isAlphanum = true ∨ marker = '_' := by grind
  simp [scan, unknown, this]

/-- An integer is bare, unless it is a zero and a mark follows. -/
theorem bare_append_of_isWhole {whole after : List Char} (integer : IsWhole whole)
    (next : whole = ['0'] → ∀ c ∈ after.head?, c.isAlphanum = false ∧ c ≠ '_') :
    Bare (whole ++ after) := by
  intro marker rest split
  rcases integer.leading with rfl | noZero
  · obtain ⟨-, rfl⟩ := List.cons.inj split
    exact next rfl marker rfl
  · cases whole with
    | nil => exact absurd rfl integer.ne_nil
    | cons c whole =>
      obtain ⟨rfl, -⟩ := List.cons.inj split
      exact absurd rfl noZero

theorem next_of_ends {after : List Char} (ends : Ends after) :
    ∀ c ∈ after.head?, c.isAlphanum = false ∧ c ≠ '_' := by
  cases after with
  | nil => nofun
  | cons c rest =>
    rintro _ ⟨⟩
    rcases ends with ⟨other, notSeparator, -⟩ | ⟨rfl, -⟩
    · exact ⟨other, notSeparator⟩
    · decide

/-- Where no mark follows a leading zero, a decimal run is an integer. -/
theorem isWhole_of_run {whole after : List Char} (bare : Bare (whole ++ after))
    (run : Run .decimal none whole) (nonempty : whole ≠ []) : IsWhole whole := by
  have body := isBody_of_run run rfl
  refine ⟨nonempty, body, ?_⟩
  match whole, nonempty with
  | [c], _ => grind
  | c :: d :: rest, _ =>
    -- After a leading zero `d` would be a digit or a separator, which `bare` excludes.
    apply Or.inr
    intro leading
    obtain rfl : c = '0' := Option.some.inj leading
    obtain ⟨other, notSeparator⟩ := bare d (rest ++ after) rfl
    rcases body.mem d (by simp) with digit | rfl
    · rw [(ne_of_mem_digits digit).2.2] at other
      cases other
    · exact notSeparator rfl

/-- The scan that a body of a known form comes to: its value leaves out mark and separators. -/
theorem toScan_of_ok {form : Form} {mark : List Char} (length : mark.length = form.markLength)
    (text : List Char) :
    (Body.mk text (.ok form)).toScan mark =
      ⟨mark ++ text, 0, .ok ⟨form.kind, String.ofList (text.filter (· ≠ '_'))⟩⟩ := by
  simp [Body.toScan, value, ← length]

/-- A scan that refuses nothing comes from a body that refuses nothing. -/
theorem exists_form_of_toScan {body : Body} {mark : List Char} {reading : Reading}
    (ok : (body.toScan mark).outcome = .ok reading) : ∃ form, body.outcome = .ok form := by
  unfold Body.toScan at ok
  cases outcome : body.outcome with
  | ok form => exact ⟨form, rfl⟩
  | error cause => simp [outcome] at ok

/-- **Behind a written number** the scan goes on as behind its last digit, unless the number is a
lone zero and a mark follows. -/
theorem scan_append_of_written {kind : Kind} {mark digits after : List Char}
    (written : Written kind mark digits)
    (next : mark ++ digits = ['0'] → ∀ c ∈ after.head?, c.isAlphanum = false ∧ c ≠ '_') :
    ∃ form digit, form.kind = kind ∧ mark.length = form.markLength ∧ form.accepts digit = true ∧
      scan (mark ++ digits ++ after) =
        (Body.mk (digits ++ (body form (some digit) after).text)
          (body form (some digit) after).outcome).toScan mark := by
  cases written with
  | decimal integer =>
    have passes := passes_of_run (run_of_isBody .decimal integer.body none)
      fun empty => absurd empty integer.ne_nil
    obtain ⟨digit, closing, onward⟩ := body_append_of_passes passes after
    refine ⟨.decimal, digit, rfl, rfl, closing, ?_⟩
    rw [List.nil_append, scan_of_bare (bare_append_of_isWhole integer next), onward]
  | @float whole fraction integer nonempty body =>
    have run : Run .decimal none whole := by
      rcases integer with rfl | integer
      · exact .nil
      · exact run_of_isBody .decimal integer.body none
    have passes := passes_of_run_point run
      (passes_of_run (run_of_isBody .float body (some '.'))
        fun empty => absurd empty nonempty)
    have bare : Bare (whole ++ '.' :: fraction ++ after) := by
      rcases integer with rfl | integer
      · intro marker rest split
        cases split
      · rw [List.append_assoc]
        refine bare_append_of_isWhole integer fun _ => ?_
        rintro _ ⟨⟩
        decide
    obtain ⟨digit, closing, onward⟩ := body_append_of_passes passes after
    refine ⟨.float, digit, rfl, rfl, closing, ?_⟩
    rw [List.nil_append, scan_of_bare bare, onward]
  | @marked _ marker _ mem nonempty body =>
    obtain ⟨form, known, rfl, length⟩ := exists_form_of_mem_markers mem
    have passes := passes_of_run (run_of_isBody form body (some marker))
      fun empty => absurd empty nonempty
    obtain ⟨digit, closing, onward⟩ := body_append_of_passes passes after
    refine ⟨form, digit, rfl, length.symm, closing, ?_⟩
    have split : ['0', marker] ++ digits ++ after = '0' :: marker :: (digits ++ after) := rfl
    rw [split, scan_of_marker known, onward]

/-- **Completeness.**  A written number that ends where a number may end is read, and nothing
more. -/
theorem scan_of_written {kind : Kind} {mark digits after : List Char}
    (written : Written kind mark digits) (ends : Ends after) :
    scan (mark ++ digits ++ after) =
      ⟨mark ++ digits, 0, .ok ⟨kind, String.ofList (digits.filter (· ≠ '_'))⟩⟩ := by
  obtain ⟨form, digit, rfl, length, closing, onward⟩ :=
    scan_append_of_written written fun _ => next_of_ends ends
  rw [onward, body_of_ends _ _ ends, close_of_accepts closing, List.append_nil,
    toScan_of_ok length]

/-- **Soundness.**  A number that is read stands in front of a place where a number may end. -/
theorem exists_written_of_scan {source : List Char} {reading : Reading}
    (ok : (scan source).outcome = .ok reading) :
    ∃ kind mark digits after, source = mark ++ digits ++ after ∧ Written kind mark digits ∧
      Ends after := by
  by_cases bare : Bare source
  · -- Without a mark: a decimal body, which is an integer unless a point was passed.
    rw [scan_of_bare bare] at ok
    obtain ⟨form, ok⟩ := exists_form_of_toScan ok
    obtain ⟨text, after, rfl, ends, passes⟩ := exists_passes_of_body ok
    rcases run_of_passes passes with ⟨rfl, run, closed⟩ |
      ⟨-, rfl, whole, fraction, rfl, nonempty, run, later⟩
    · have nonempty : text ≠ [] := fun empty => by cases closed empty
      exact ⟨_, [], text, after, rfl, .decimal (isWhole_of_run bare run nonempty), ends⟩
    · have integer : whole = [] ∨ IsWhole whole := by
        by_cases empty : whole = []
        · exact .inl empty
        · rw [List.append_assoc] at bare
          exact .inr (isWhole_of_run bare run empty)
      have body := isBody_of_run later rfl
      exact ⟨_, [], _, after, rfl, .float integer nonempty body, ends⟩
  · -- After a leading zero only a mark is read, and a body of the form it announces.
    obtain ⟨marker, rest, rfl, refused⟩ := exists_marker_of_not_bare bare
    cases known : Form.ofMarker? marker with
    | none =>
      rw [scan_of_no_marker known refused] at ok
      cases ok
    | some form =>
      rw [scan_of_marker known] at ok
      have mem := (ofMarker?_eq_some_iff marker form).mp known
      obtain ⟨notDigit, notDecimal⟩ := not_digit_of_mem_markers mem
      obtain ⟨form', ok⟩ := exists_form_of_toScan ok
      obtain ⟨text, after, rfl, ends, passes⟩ := exists_passes_of_body ok
      rcases run_of_passes passes with ⟨rfl, run, closed⟩ | ⟨rfl, -⟩
      · have nonempty : text ≠ [] := fun empty =>
          notDigit ((accepts_iff_mem form' marker).mp (closed empty))
        exact ⟨form'.kind, ['0', marker], text, after, rfl,
          .marked mem nonempty (isBody_of_run run notDecimal), ends⟩
      · cases mem

/-! ## Numbers without their separators -/

/-- Without its separators a body has digits only. -/
theorem IsBody.mem_digits {digits text : List Char} (body : IsBody digits text) :
    ∀ c ∈ text.filter (· ≠ '_'), c ∈ digits := by
  intro c mem
  obtain ⟨mem, other⟩ := List.mem_filter.mp mem
  exact (body.mem c mem).resolve_right (by simpa using other)

/-- A body does not start with a separator. -/
theorem IsBody.head?_filter {digits text : List Char} (body : IsBody digits text) :
    (text.filter (· ≠ '_')).head? = text.head? := by
  cases text with
  | nil => rfl
  | cons c rest =>
    have first : c ≠ '_' := by
      rintro rfl
      exact absurd (body.separated [] rest rfl).1 (by decide)
    rw [List.filter_cons_of_pos (by simpa using first)]
    rfl

/-- A body is not made of separators alone. -/
theorem IsBody.filter_ne_nil {digits text : List Char} (body : IsBody digits text)
    (nonempty : text ≠ []) : text.filter (· ≠ '_') ≠ [] := by
  intro empty
  have first := body.head?_filter
  rw [empty] at first
  exact nonempty (List.head?_eq_none_iff.mp first.symm)

/-- A number keeps its point. -/
theorem filter_append_point (whole fraction : List Char) :
    (whole ++ '.' :: fraction).filter (· ≠ '_') =
      whole.filter (· ≠ '_') ++ '.' :: fraction.filter (· ≠ '_') := by
  rw [List.filter_append]
  rfl

/-! ## Reading a number -/

/-- Only the numbers of a marked base have a mark, which is two characters long. -/
theorem Written.length_mark {kind : Kind} {mark digits : List Char}
    (written : Written kind mark digits) : mark.length = if kind.markers = [] then 0 else 2 := by
  cases written with
  | decimal _ => rfl
  | float _ _ _ => rfl
  | marked mem _ _ => rw [if_neg (List.ne_nil_of_mem mem)]; rfl

/-- A text starts with at most one written number that ends where a number may end. -/
theorem Written.unique {kind kind' : Kind} {mark mark' digits digits' after after' : List Char}
    (written : Written kind mark digits) (ends : Ends after)
    (written' : Written kind' mark' digits') (ends' : Ends after')
    (same : mark ++ digits ++ after = mark' ++ digits' ++ after') :
    kind' = kind ∧ mark' = mark ∧ digits' = digits := by
  have scans := scan_of_written written ends
  rw [same, scan_of_written written' ends'] at scans
  obtain ⟨text, -, outcome⟩ := Scan.mk.inj scans
  obtain rfl : kind' = kind := (Reading.mk.inj (Except.ok.inj outcome)).1
  have length : mark'.length = mark.length := written'.length_mark.trans written.length_mark.symm
  exact ⟨rfl, List.append_inj text length⟩

/-- **The grammar of numbers.**  Reading a number gives a token exactly when the text at the cursor
starts with a written number that ends where a number may end. That number is then the only one,
and the token has its kind, its digits without separators and its place. -/
theorem exists_token_read_iff_written (cursor : Cursor) (line : Nat) :
    ((∃ token, (read cursor line).token = .ok token) ↔
      ∃ kind mark digits after, cursor.rest = mark ++ digits ++ after ∧
        Written kind mark digits ∧ Ends after) ∧
    ∀ token, (read cursor line).token = .ok token →
      ∃ kind mark digits after, cursor.rest = mark ++ digits ++ after ∧
        Written kind mark digits ∧ Ends after ∧
        (∀ kind' mark' digits' after', cursor.rest = mark' ++ digits' ++ after' →
          Written kind' mark' digits' → Ends after' →
          kind' = kind ∧ mark' = mark ∧ digits' = digits) ∧
        token.kind = kind ∧
        token.value.toList = digits.filter (· ≠ '_') ∧
        token.span.start = ⟨cursor.offset, line, cursor.file⟩ ∧
        token.span.stop = ⟨cursor.offset + (mark ++ digits).length, line, cursor.file⟩ ∧
        (read cursor line).cursor.source = cursor.source ∧
        (read cursor line).cursor.rest = after ∧
        (read cursor line).line = line := by
  have complete {kind : Kind} {mark digits after : List Char}
      (split : cursor.rest = mark ++ digits ++ after) (written : Written kind mark digits)
      (ends : Ends after) :
      read cursor line = ⟨.ok ⟨kind, String.ofList (digits.filter (· ≠ '_')),
        ⟨cursor.here line, (cursor.skip (mark ++ digits).length).here line⟩⟩,
        cursor.skip (mark ++ digits).length, line⟩ := by
    rw [read, split, scan_of_written written ends]
    rfl
  have sound {token : Token} (ok : (read cursor line).token = .ok token) :
      ∃ kind mark digits after, cursor.rest = mark ++ digits ++ after ∧
        Written kind mark digits ∧ Ends after := by
    cases outcome : (scan cursor.rest).outcome with
    | ok reading => exact exists_written_of_scan outcome
    | error fault => simp [read, Scan.readAt, outcome] at ok
  refine ⟨⟨?_, ?_⟩, ?_⟩
  · rintro ⟨token, ok⟩
    exact sound ok
  · rintro ⟨kind, mark, digits, after, split, written, ends⟩
    exact ⟨_, congrArg Scan.Result.token (complete split written ends)⟩
  · intro token ok
    obtain ⟨kind, mark, digits, after, split, written, ends⟩ := sound ok
    have reads := complete split written ends
    rw [reads] at ok ⊢
    cases ok
    refine ⟨kind, mark, digits, after, split, written, ends, ?_, rfl, ?_, rfl, ?_, ?_, ?_, rfl⟩
    · intro kind' mark' digits' after' split' written' ends'
      exact written.unique ends written' ends' (split ▸ split')
    · exact String.toList_ofList
    · simp [Cursor.here, Cursor.offset_skip, split]
    · simp
    · simp [split]

end Number

end Lexeme
