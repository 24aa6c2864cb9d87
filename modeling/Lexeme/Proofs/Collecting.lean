import Mathlib
import Lexeme.TokenStream

/-!
# Collecting the literals of any tokens

What `TokenStream.literals` comes to for tokens of any kinds, values and spans, also for ones that
no source has.

## Main Definitions

* `Token.isLiteral` — whether a token is a literal

## Design Notes

The stream is walked token by token with the literals found so far in an accumulator.
`literalsFrom_eq` takes the walk to the literal tokens, read one after another, for any accumulator
and any tokens already passed; everything else is said about that list. Only the literal tokens are
in it, so other tokens, the tokens passed and the name of the file cannot make a difference.
-/

namespace Lexeme

/-! ## Reading one after another -/

section Reading

variable {α β ε : Type} {f : α → Except ε β} {item : α} {items : List α}

/-- Two steps give a result if both do. -/
theorem bind_eq_ok_iff {first : Except ε α} {second : α → Except ε β} {result : β} :
    (first >>= second) = .ok result ↔ ∃ value, first = .ok value ∧ second value = .ok result := by
  cases first <;> simp [Bind.bind, Except.bind]

/-- Two steps fail if the first one does, or the second one after it. -/
theorem bind_eq_error_iff {first : Except ε α} {second : α → Except ε β} {error : ε} :
    (first >>= second) = .error error ↔
      first = .error error ∨ ∃ value, first = .ok value ∧ second value = .error error := by
  cases first <;> simp [Bind.bind, Except.bind]

/-- A list is read if each of its items is. -/
theorem mapM_eq_ok_iff {results : List β} :
    items.mapM f = .ok results ↔
      List.Forall₂ (fun item result => f item = .ok result) items results := by
  induction items generalizing results with
  | nil =>
    rw [List.forall₂_nil_left_iff]
    exact ⟨fun ok => (Except.ok.inj ok).symm, fun empty => congrArg Except.ok empty.symm⟩
  | cons item items ih =>
    rw [List.mapM_cons, bind_eq_ok_iff, List.forall₂_cons_left_iff]
    refine exists_congr fun result => ?_
    rw [bind_eq_ok_iff]
    constructor
    · rintro ⟨here, later, rest, same⟩
      exact ⟨later, here, ih.mp rest, (Except.ok.inj same).symm⟩
    · rintro ⟨later, here, rest, rfl⟩
      exact ⟨here, later, ih.mpr rest, rfl⟩

/-- Reading a list fails at the first item that cannot be read, whatever comes after it. -/
theorem mapM_eq_error_iff {error : ε} :
    items.mapM f = .error error ↔
      ∃ before item after, items = before ++ item :: after ∧ f item = .error error ∧
        ∀ earlier ∈ before, ∃ result, f earlier = .ok result := by
  induction items with
  | nil => exact ⟨nofun, fun ⟨before, item, after, split, _⟩ => by simp at split⟩
  | cons first items ih =>
    rw [List.mapM_cons, bind_eq_error_iff]
    constructor
    · rintro (failed | ⟨result, here, failed⟩)
      · exact ⟨[], first, items, rfl, failed, nofun⟩
      · obtain later | ⟨_, _, failed⟩ := bind_eq_error_iff.mp failed
        · obtain ⟨before, item, after, rfl, failed, read⟩ := ih.mp later
          exact ⟨first :: before, item, after, rfl, failed,
            List.forall_mem_cons.mpr ⟨⟨result, here⟩, read⟩⟩
        · cases failed
    · rintro ⟨before, item, after, split, failed, read⟩
      cases before with
      | nil =>
        obtain ⟨rfl, -⟩ := List.cons.inj split
        exact .inl failed
      | cons other before =>
        obtain ⟨rfl, rfl⟩ := List.cons.inj split
        obtain ⟨⟨result, here⟩, read⟩ := List.forall_mem_cons.mp read
        have later := ih.mpr ⟨before, item, after, rfl, failed, read⟩
        exact .inr ⟨result, here, bind_eq_error_iff.mpr (.inl later)⟩

end Reading

/-! ## The walk along a stream -/

/-- Whether a token is a literal. -/
def Token.isLiteral (token : Token) : Bool := token.kind.isLiteral

namespace TokenStream

/-- Passing over a token that is no literal. -/
theorem literalsFrom_skip {file : String} {passed tokens : List Token} {token : Token}
    (other : token.isLiteral = false) (found : Array Literal) :
    literalsFrom found ⟨file, passed, token :: tokens⟩ =
      literalsFrom found ⟨file, token :: passed, tokens⟩ := by
  rw [literalsFrom]
  show (if token.isLiteral = true then _ else _) = _
  rw [if_neg (by simp [other])]
  rfl

/-- Reading a token that is a literal. -/
theorem literalsFrom_read {file : String} {passed tokens : List Token} {token : Token}
    (literal : token.isLiteral = true) (found : Array Literal) :
    literalsFrom found ⟨file, passed, token :: tokens⟩ =
      (Literal.ofToken token).bind fun read =>
        literalsFrom (found.push read) ⟨file, token :: passed, tokens⟩ := by
  rw [literalsFrom]
  show (if token.isLiteral = true then _ else _) = _
  rw [if_pos literal]
  -- Each case of the recursion carries how `primary` was decided, so that is said first.
  cases reads : Literal.ofToken token with
  | error error =>
    have refused := run_primary_of_error file passed tokens token reads
    split
    · next ok => rw [refused] at ok; cases ok
    · next failed => rw [refused] at failed; cases failed; rfl
  | ok read =>
    have passes := run_primary_of_ok file passed tokens token reads
    split
    · next ok => rw [passes] at ok; cases ok; rfl
    · next failed => rw [passes] at failed; cases failed

/-- Reading the literals left is reading the literal tokens left one after another. -/
theorem literalsFrom_eq (file : String) (passed tokens : List Token) (found : Array Literal) :
    literalsFrom found ⟨file, passed, tokens⟩ =
      ((tokens.filter Token.isLiteral).mapM Literal.ofToken).map (found.toList ++ ·) := by
  induction tokens generalizing passed found with
  | nil =>
    rw [literalsFrom]
    show Except.ok found.toList = Except.ok (found.toList ++ [])
    rw [List.append_nil]
  | cons token tokens ih =>
    by_cases literal : token.isLiteral = true
    · rw [literalsFrom_read literal, List.filter_cons_of_pos literal, List.mapM_cons]
      cases Literal.ofToken token with
      | error error => rfl
      | ok read =>
        show literalsFrom (found.push read) _ = Except.map (found.toList ++ ·)
          (((tokens.filter Token.isLiteral).mapM Literal.ofToken).map (read :: ·))
        rw [ih, Array.toList_push]
        cases (tokens.filter Token.isLiteral).mapM Literal.ofToken with
        | error error => rfl
        | ok later =>
          show Except.ok (found.toList ++ [read] ++ later) = .ok (found.toList ++ read :: later)
          rw [List.append_assoc, List.singleton_append]
    · rw [literalsFrom_skip (by simpa using literal), List.filter_cons_of_neg literal, ih]

/-- The literals of a list of tokens are its literal tokens, read one after another. -/
theorem literals_ofList (tokens : List Token) (file : String) :
    (ofList tokens file).literals = (tokens.filter Token.isLiteral).mapM Literal.ofToken := by
  rw [literals, ofList, literalsFrom_eq]
  cases (tokens.filter Token.isLiteral).mapM Literal.ofToken <;> rfl

end TokenStream

/-! ## Literals of any tokens -/

namespace Literal

/-- Integer literals of every base are read alike. -/
theorem Value.ofText_of_radix? {kind : Kind} {radix : Nat} (base : kind.radix? = some radix)
    (text : String) :
    Value.ofText kind text =
      match Numeral.integer? radix text.toList with
      | some n => .ok (.integer n)
      | none => .error (.numberParseError text) := by
  cases kind <;> cases base <;> rfl

/-- A literal token that denotes nothing has digits that are no number, or too many characters. -/
theorem Value.cause_of_ofText {kind : Kind} {text : String} {cause : Cause}
    (literal : kind.isLiteral = true) (failed : ofText kind text = .error cause) :
    cause = .numberParseError text ∨ cause = .charLiteralOverflow text := by
  cases base : kind.radix? with
  | some radix =>
    rw [ofText_of_radix? base] at failed
    split at failed <;> cases failed
    exact .inl rfl
  | none =>
    cases kind with
    | floatLiteral =>
      rw [ofText] at failed
      split at failed <;> cases failed
      exact .inl rfl
    | charLiteral =>
      rw [ofText] at failed
      split at failed <;> cases failed
      exact .inr rfl
    | stringLiteral | templateString => cases failed
    | numericLiteral | binaryLiteral | octalLiteral | hexaLiteral => cases base
    | _ => cases literal

/-- A literal token is never of the wrong kind. -/
theorem cause_ne_unexpectedToken {token : Token} {error : Error} (literal : token.isLiteral = true)
    (failed : ofToken token = .error error) (found : String) :
    error.cause ≠ .unexpectedToken found := by
  unfold ofToken at failed
  split at failed
  · cases failed
  · next cause refused =>
    cases failed
    show cause ≠ .unexpectedToken found
    rcases Value.cause_of_ofText literal refused with rfl | rfl <;> nofun

end Literal

namespace TokenStream

/-- Which literal tokens are read is all that collecting them depends on. -/
theorem literals_ofList_congr {tokens others : List Token}
    (same : tokens.filter Token.isLiteral = others.filter Token.isLiteral) (file other : String) :
    (ofList tokens file).literals = (ofList others other).literals := by
  rw [literals_ofList, literals_ofList, same]

/-- Collecting fails at the first literal token that denotes nothing. -/
theorem literals_ofList_eq_error_iff {tokens : List Token} {file : String} {error : Error} :
    (ofList tokens file).literals = .error error ↔
      ∃ before token after, tokens = before ++ token :: after ∧ token.isLiteral = true ∧
        Literal.ofToken token = .error error ∧
        ∀ earlier ∈ before, earlier.isLiteral = true →
          ∃ literal, Literal.ofToken earlier = .ok literal := by
  rw [literals_ofList, mapM_eq_error_iff]
  constructor
  · rintro ⟨before, token, after, split, failed, read⟩
    obtain ⟨front, behind, rfl, rfl, rest⟩ := List.filter_eq_append_iff.mp split
    obtain ⟨between, back, rfl, others, literal, -⟩ := List.filter_eq_cons_iff.mp rest
    refine ⟨front ++ between, token, back, by simp, literal, failed, ?_⟩
    intro earlier mem isLiteral
    rcases List.mem_append.mp mem with mem | mem
    · exact read earlier (List.mem_filter.mpr ⟨mem, isLiteral⟩)
    · exact absurd isLiteral (others earlier mem)
  · rintro ⟨before, token, after, rfl, literal, failed, read⟩
    refine ⟨before.filter Token.isLiteral, token, after.filter Token.isLiteral, ?_, failed, ?_⟩
    · rw [List.filter_append, List.filter_cons_of_pos literal]
    · intro earlier mem
      obtain ⟨mem, isLiteral⟩ := List.mem_filter.mp mem
      exact read earlier mem isLiteral

/-- **Collecting literals.**  The literals of any tokens are the literal tokens read from left to
right: one literal for each of them if all denote something, and else the error of the first one
that does not. That error is never about the kind of a token. Neither the name of the file nor
tokens that are no literals make a difference, wherever these are put in. -/
theorem literals_of_tokens (tokens : List Token) (file : String) :
    (ofList tokens file).literals = (tokens.filter Token.isLiteral).mapM Literal.ofToken ∧
    (∀ literals, (ofList tokens file).literals = .ok literals ↔
      List.Forall₂ (fun token literal => Literal.ofToken token = .ok literal)
        (tokens.filter Token.isLiteral) literals) ∧
    (∀ error, (ofList tokens file).literals = .error error ↔
      ∃ before token after, tokens = before ++ token :: after ∧ token.isLiteral = true ∧
        Literal.ofToken token = .error error ∧
        ∀ earlier ∈ before, earlier.isLiteral = true →
          ∃ literal, Literal.ofToken earlier = .ok literal) ∧
    (∀ error, (ofList tokens file).literals = .error error →
      ∀ found, error.cause ≠ .unexpectedToken found) ∧
    ∀ before others after other, tokens = before ++ after →
      (∀ token ∈ others, token.isLiteral = false) →
      (ofList (before ++ others ++ after) other).literals = (ofList tokens file).literals := by
  refine ⟨literals_ofList tokens file, ?_, fun error => literals_ofList_eq_error_iff, ?_, ?_⟩
  · intro literals
    rw [literals_ofList, mapM_eq_ok_iff]
  · intro error failed found
    obtain ⟨before, token, after, -, literal, refused, -⟩ := literals_ofList_eq_error_iff.mp failed
    exact Literal.cause_ne_unexpectedToken literal refused found
  · rintro before others after other rfl silent
    have none : others.filter Token.isLiteral = [] :=
      List.filter_eq_nil_iff.mpr fun token mem => by simp [silent token mem]
    apply literals_ofList_congr
    rw [List.filter_append, List.filter_append, List.filter_append, none, List.append_nil]

/-- A signed integer is read, the characters behind it are too many, and a name between the two
changes nothing. -/
theorem literals_of_tokens_behind_sign :
    let signed : Token := ⟨.numericLiteral, "+5", ⟨⟨0, 1, "a"⟩, ⟨2, 1, "a"⟩⟩⟩
    let name : Token := ⟨.identifierName, "x", ⟨⟨7, 9, "b"⟩, ⟨3, 2, "c"⟩⟩⟩
    let pair : Token := ⟨.charLiteral, "xy", ⟨⟨4, 1, "a"⟩, ⟨8, 1, "a"⟩⟩⟩
    let word : Token := ⟨.floatLiteral, "word", ⟨⟨9, 1, "a"⟩, ⟨9, 1, "a"⟩⟩⟩
    (ofList [signed, pair, word] "a").literals =
        .error ⟨.charLiteralOverflow "xy", ⟨4, 1, "a"⟩⟩ ∧
      (ofList [signed, name, pair, word] "b").literals =
        .error ⟨.charLiteralOverflow "xy", ⟨4, 1, "a"⟩⟩ := by
  intro signed name pair word
  obtain ⟨-, -, failed, -, padded⟩ := literals_of_tokens [signed, pair, word] "a"
  have first : (ofList [signed, pair, word] "a").literals =
      .error ⟨.charLiteralOverflow "xy", ⟨4, 1, "a"⟩⟩ := by
    refine (failed _).mpr ⟨[signed], pair, [word], rfl, rfl, by cbv, ?_⟩
    intro earlier mem _
    obtain rfl := List.mem_singleton.mp mem
    exact ⟨⟨.integer 5, signed.span⟩, by cbv⟩
  have silent : ∀ token ∈ [name], token.isLiteral = false := by decide
  have second := padded [signed] [name] [pair, word] "b" rfl silent
  exact ⟨first, second.trans first⟩

end TokenStream

end Lexeme
