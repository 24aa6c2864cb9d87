import Mathlib
import Lexeme.Proofs.Positions
import Lexeme.TokenStream

/-!
# Calls on a token stream

What a token stream does under calls in any order, some of which fail: its tokens are passed one by
one, and a call that passes none leaves everything as it was.

## Main Definitions

* `TokenStream.Call`, `TokenStream.Reply` — the ways to use a stream, and what they give back
* `TokenStream.answer` — one call
* `TokenStream.Event`, `TokenStream.events` — the calls of a run, each with the streams around it
* `TokenStream.Passes` — the reply to a call that passes a token
* `TokenStream.Effect` — all that one call can do
* `Position.AtMost`, `InOrder` — positions and tokens that never lead back

## Design Notes

A refused call gives back a stream, too, and `answer` goes on with that one. `effect_answer` is the
only place where a call is opened: either the first token left is one that the call accepts, and it
is passed, or the stream given back is the one before. What a run keeps follows from that by
induction on its calls.

A position moves from the start of a token to the start of the next one, or to the end of the last
one. That none of these steps leads back is `InOrder`, which tokens need not be in; those of a
source are, since their spans are disjoint and in order and lines are counted along with offsets.
-/

namespace Lexeme

/-! ## Positions that do not lead back -/

/-- From the first position to the second neither offset nor line goes down. -/
structure Position.AtMost (p q : Position) : Prop where
  /-- The offset does not go down. -/
  offset_le : p.offset ≤ q.offset
  /-- The line does not go down. -/
  line_le : p.line ≤ q.line

theorem Position.AtMost.refl (p : Position) : p.AtMost p := ⟨Nat.le_refl _, Nat.le_refl _⟩

theorem Position.AtMost.trans {p q r : Position} (first : p.AtMost q) (second : q.AtMost r) :
    p.AtMost r :=
  ⟨first.offset_le.trans second.offset_le, first.line_le.trans second.line_le⟩

/-- Tokens that stand one behind the other. -/
structure InOrder (tokens : List Token) : Prop where
  /-- No token stops before it starts. -/
  within : ∀ token ∈ tokens, token.span.start.AtMost token.span.stop
  /-- No token starts before an earlier one stops. -/
  between : tokens.Pairwise fun token later => token.span.stop.AtMost later.span.start

/-- The tokens of a source stand one behind the other. -/
theorem inOrder_of_tokenize {lexer : Lexer} {source file : String} {tokens : List Token}
    (ok : (lexer.tokenize source file).result = .ok tokens) : InOrder tokens := by
  have located := located_of_ok ok
  have layout := layout_of_tokenize ok
  constructor
  · intro token mem
    obtain ⟨start, stop⟩ := located token mem
    have nonempty := Nat.le_of_lt (layout.bounds token mem).2.1
    exact ⟨nonempty, start.line_le stop nonempty⟩
  · refine layout.ordered.imp_of_mem ?_
    intro token later mem memLater before
    exact ⟨before, (located token mem).2.line_le (located later memLater).1 before⟩

/-- A token that denotes nothing is refused where it starts. -/
theorem Literal.position_of_ofToken {token : Token} {error : Error}
    (failed : ofToken token = .error error) : error.position = token.span.start := by
  unfold ofToken at failed
  split at failed <;> cases failed
  rfl

namespace TokenStream

/-! ## One call -/

/-- A way to use a stream. -/
inductive Call
  /-- To look at the first token left. -/
  | current
  /-- To look at the kind of the first token left. -/
  | kind
  /-- To pass the first token left. -/
  | advance
  /-- To pass it if it is of a kind. -/
  | expect (kind : Kind)
  /-- To pass it if it is a literal that denotes something. -/
  | primary

/-- What a call gives back. -/
inductive Reply
  /-- The token that is looked at, if there is one. -/
  | current (token? : Option Token)
  /-- Its kind. -/
  | kind (kind? : Option Kind)
  /-- The token passed, if there was one. -/
  | advance (token? : Option Token)
  /-- The token passed, or why it is refused. -/
  | expect (result : Except Error Token)
  /-- The literal passed, or why it is refused. -/
  | primary (result : Except Error Literal)

/-- Answers a call, with the stream that it leaves behind, whether it is refused or not. -/
def answer (stream : TokenStream) : Call → Reply × TokenStream
  | .current => (.current stream.current?, stream)
  | .kind => (.kind stream.kind?, stream)
  | .advance => (.advance stream.current?, stream.advance)
  | .expect kind =>
    match (TokenStream.expect kind).run stream with
    | .ok token next => (.expect (.ok token), next)
    | .error error next => (.expect (.error error), next)
  | .primary =>
    match TokenStream.primary.run stream with
    | .ok literal next => (.primary (.ok literal), next)
    | .error error next => (.primary (.error error), next)

/-- Whether a call has passed a token. -/
def Reply.succeeds : Reply → Bool
  | .current _ | .kind _ => false
  | .advance token? => token?.isSome
  | .expect result => result.isOk
  | .primary result => result.isOk

/-- Why a call is refused. -/
def Reply.error? : Reply → Option Error
  | .expect (.error error) | .primary (.error error) => some error
  | _ => none

/-- Which tokens a call passes. -/
def Call.Accepts (token : Token) : Call → Prop
  | .current | .kind => False
  | .advance => True
  | .expect wanted => token.kind = wanted
  | .primary => ∃ literal, Literal.ofToken token = .ok literal

/-- The reply to a call that passes `token`: the token itself, or the literal that it is. -/
inductive Passes (token : Token) : Call → Reply → Prop
  | advance : Passes token .advance (.advance (some token))
  | expect : Passes token (.expect token.kind) (.expect (.ok token))
  | primary {literal : Literal} (reads : Literal.ofToken token = .ok literal) :
      Passes token .primary (.primary (.ok literal))

/-- A call passes only what it accepts. -/
theorem Passes.accepts {token : Token} {call : Call} {reply : Reply}
    (passes : Passes token call reply) : call.Accepts token := by
  cases passes with
  | advance => trivial
  | expect => rfl
  | primary reads => exact ⟨_, reads⟩

theorem Passes.succeeds {token : Token} {call : Call} {reply : Reply}
    (passes : Passes token call reply) : reply.succeeds = true := by
  cases passes <;> rfl

/-- What a call comes to, in all that it can do. -/
inductive Effect (stream : TokenStream) (call : Call) : Reply × TokenStream → Prop
  /-- The first token left is passed. -/
  | passed {token : Token} {rest : List Token} {reply : Reply} (left : stream.rest = token :: rest)
      (passes : Passes token call reply) :
      Effect stream call (reply, ⟨stream.file, token :: stream.passed, rest⟩)
  /-- There is no token that the call accepts, and an error stands where the stream does. -/
  | stayed {reply : Reply} (refuses : ∀ token ∈ stream.current?, ¬call.Accepts token)
      (fails : reply.succeeds = false)
      (place : ∀ error ∈ reply.error?, error.position = stream.position) :
      Effect stream call (reply, stream)

/-- **One call** passes the first token left or leaves the stream as it is. -/
theorem effect_answer (stream : TokenStream) (call : Call) :
    Effect stream call (stream.answer call) := by
  obtain ⟨file, passed, rest⟩ := stream
  cases call with
  | current => exact .stayed (fun _ _ => id) rfl nofun
  | kind => exact .stayed (fun _ _ => id) rfl nofun
  | advance =>
    cases rest with
    | nil => exact .stayed nofun rfl nofun
    | cons token rest => exact .passed rfl .advance
  | expect kind =>
    cases rest with
    | nil => exact .stayed nofun rfl (by rintro _ ⟨⟩; rfl)
    | cons token rest =>
      by_cases same : token.kind = kind
      · subst same
        rw [answer, run_expect_of_eq]
        exact .passed rfl .expect
      · rw [answer, run_expect_of_ne _ _ _ _ same]
        refine .stayed ?_ rfl (by rintro _ ⟨⟩; rfl)
        rintro _ ⟨⟩
        exact same
  | primary =>
    cases rest with
    | nil => exact .stayed nofun rfl (by rintro _ ⟨⟩; rfl)
    | cons token rest =>
      cases reads : Literal.ofToken token with
      | ok literal =>
        rw [answer, run_primary_of_ok _ _ _ _ reads]
        exact .passed rfl (.primary reads)
      | error error =>
        rw [answer, run_primary_of_error _ _ _ _ reads]
        refine .stayed ?_ rfl ?_
        · rintro _ ⟨⟩ ⟨literal, ok⟩
          rw [reads] at ok
          cases ok
        · rintro _ ⟨⟩
          exact Literal.position_of_ofToken reads

section Effect

variable {stream next : TokenStream} {call : Call} {reply : Reply}

/-- A call keeps the tokens. -/
theorem Effect.tokens_eq (effect : Effect stream call (reply, next)) :
    next.tokens = stream.tokens := by
  cases effect with
  | passed left _ => simp [tokens, left]
  | stayed _ _ _ => rfl

/-- A call succeeds exactly if it accepts the first token left. -/
theorem Effect.succeeds_iff (effect : Effect stream call (reply, next)) :
    reply.succeeds = true ↔ ∃ token ∈ stream.current?, call.Accepts token := by
  cases effect with
  | @passed token rest _ left passes =>
    have first : token ∈ stream.current? := by rw [current?, left]; rfl
    exact ⟨fun _ => ⟨token, first, passes.accepts⟩, fun _ => passes.succeeds⟩
  | stayed refuses fails _ =>
    constructor
    · intro succeeds
      rw [fails] at succeeds
      cases succeeds
    · rintro ⟨token, first, accepts⟩
      exact absurd accepts (refuses token first)

/-- A call that passes nothing leaves the stream as it is. -/
theorem Effect.eq_of_fails (effect : Effect stream call (reply, next))
    (fails : reply.succeeds = false) :
    next = stream ∧ ∀ error ∈ reply.error?, error.position = stream.position := by
  cases effect with
  | passed _ passes =>
    rw [passes.succeeds] at fails
    cases fails
  | stayed _ _ place => exact ⟨rfl, place⟩

/-- A call on tokens in order does not lead back. -/
theorem Effect.position_atMost (effect : Effect stream call (reply, next))
    (ordered : InOrder stream.tokens) : stream.position.AtMost next.position := by
  cases effect with
  | @passed token rest _ left _ =>
    obtain ⟨file, passed, _⟩ := stream
    obtain rfl : _ = token :: rest := left
    have within : token.span.start.AtMost token.span.stop :=
      ordered.within token (by simp [tokens])
    cases rest with
    | nil => exact within
    | cons later rest =>
      have behind := (List.pairwise_append.mp ordered.between).2.1
      exact within.trans ((List.pairwise_cons.mp behind).1 later List.mem_cons_self)
  | stayed _ _ _ => exact .refl _

end Effect

/-! ## Runs of calls -/

/-- A call in a run, with the streams before and after it. -/
structure Event where
  /-- The stream that is called. -/
  before : TokenStream
  /-- The call. -/
  call : Call
  /-- What it gives back. -/
  reply : Reply
  /-- The stream afterwards. -/
  after : TokenStream

/-- The events of a run of calls. -/
def events (stream : TokenStream) : List Call → List Event
  | [] => []
  | call :: calls =>
    ⟨stream, call, (stream.answer call).1, (stream.answer call).2⟩ ::
      (stream.answer call).2.events calls

/-- The stream after a run of calls. -/
def afterAll (stream : TokenStream) (calls : List Call) : TokenStream :=
  calls.foldl (fun stream call => (stream.answer call).2) stream

/-- A run starts with its first call. -/
theorem events_cons {stream next : TokenStream} {call : Call} {reply : Reply}
    (step : stream.answer call = (reply, next)) (calls : List Call) :
    stream.events (call :: calls) = ⟨stream, call, reply, next⟩ :: next.events calls ∧
      stream.afterAll (call :: calls) = next.afterAll calls := by
  rw [events, afterAll, List.foldl_cons, step]
  exact ⟨rfl, rfl⟩

/-- Every event of a run is one call. -/
theorem effect_of_mem_events {stream : TokenStream} {calls : List Call} {event : Event}
    (mem : event ∈ stream.events calls) :
    Effect event.before event.call (event.reply, event.after) := by
  induction calls generalizing stream with
  | nil => cases mem
  | cons call calls ih =>
    rcases List.mem_cons.mp mem with rfl | mem
    · exact effect_answer stream call
    · exact ih mem

/-- **The tokens that a run passes** are the first of those left before it, and the others are left
after it. -/
theorem exists_passed (stream : TokenStream) (calls : List Call) :
    ∃ passed left, stream.rest = passed ++ left ∧
      List.Forall₂ (fun event token => Passes token event.call event.reply)
        ((stream.events calls).filter (·.reply.succeeds)) passed ∧
      stream.afterAll calls = ⟨stream.file, passed.reverse ++ stream.passed, left⟩ := by
  induction calls generalizing stream with
  | nil => exact ⟨[], stream.rest, rfl, .nil, rfl⟩
  | cons call calls ih =>
    have effect := effect_answer stream call
    rcases step : stream.answer call with ⟨reply, next⟩
    rw [step] at effect
    obtain ⟨events, last⟩ := events_cons step calls
    obtain ⟨passed, left, rest, passes, ends⟩ := ih next
    rw [events, last, ends]
    cases effect with
    | @passed token _ _ first here =>
      obtain rfl : _ = passed ++ left := rest
      refine ⟨token :: passed, left, first, ?_, ?_⟩
      · rw [List.filter_cons, if_pos here.succeeds]
        exact .cons here passes
      · rw [List.reverse_cons, List.append_assoc, List.singleton_append]
    | stayed _ fails _ =>
      refine ⟨passed, left, rest, ?_, rfl⟩
      rw [List.filter_cons, if_neg (by simp [fails])]
      exact passes

/-- **Runs do not lead back**: along the calls the position of a stream of tokens in order never
goes down. -/
theorem pairwise_position {stream : TokenStream} (ordered : InOrder stream.tokens)
    (calls : List Call) :
    (stream :: (stream.events calls).map Event.after).Pairwise fun earlier later =>
      earlier.position.AtMost later.position := by
  induction calls generalizing stream with
  | nil => exact List.pairwise_singleton _ _
  | cons call calls ih =>
    have effect := effect_answer stream call
    rcases step : stream.answer call with ⟨reply, next⟩
    rw [step] at effect
    have later := ih (effect.tokens_eq.symm ▸ ordered)
    have here := effect.position_atMost ordered
    rw [(events_cons step calls).1, List.map_cons]
    refine List.pairwise_cons.mpr ⟨?_, later⟩
    intro other mem
    rcases List.mem_cons.mp mem with rfl | mem
    · exact here
    · exact here.trans ((List.pairwise_cons.mp later).1 other mem)

/-- A stream with no token left stands where the last one stops. -/
theorem position_at_end {file : String} {passed : List Token} {token : Token}
    (last : token ∈ passed.getLast?) :
    (⟨file, passed.reverse, []⟩ : TokenStream).position = token.span.stop := by
  obtain ⟨front, rfl⟩ := List.getLast?_eq_some_iff.mp last
  rw [List.reverse_append]
  rfl

/-- **A token stream under calls.**  The tokens that the successful calls pass are the first ones of
the list, each once and in order, and tokens are left exactly if these are not all. The stream
stands at the start of the first token left, or else at the end of the last one, or at the start of
the file if there are no tokens at all. A call succeeds if the first token left is one that it
accepts; if it does not succeed, everything that can be seen of the stream is as before, and an
error stands where the stream does. Along tokens of a source neither offset nor line ever goes down.
-/
theorem calls_on_tokens (tokens : List Token) (file : String) (calls : List Call) :
    (∃ passed left, tokens = passed ++ left ∧
      List.Forall₂ (fun event token => Passes token event.call event.reply)
        (((ofList tokens file).events calls).filter (·.reply.succeeds)) passed ∧
      ((ofList tokens file).afterAll calls).current? = left.head? ∧
      (((ofList tokens file).afterAll calls).hasTokens = true ↔ passed ≠ tokens) ∧
      (∀ token ∈ left.head?, ((ofList tokens file).afterAll calls).position = token.span.start) ∧
      (left = [] → ∀ token ∈ tokens.getLast?,
        ((ofList tokens file).afterAll calls).position = token.span.stop) ∧
      (tokens = [] → ((ofList tokens file).afterAll calls).position = ⟨0, 1, file⟩)) ∧
    (∀ event ∈ (ofList tokens file).events calls,
      (event.reply.succeeds = true ↔ ∃ token ∈ event.before.current?, event.call.Accepts token) ∧
      (event.reply.succeeds = false →
        event.after.current? = event.before.current? ∧
        event.after.hasTokens = event.before.hasTokens ∧
        event.after.position = event.before.position ∧
        ∀ error ∈ event.reply.error?, error.position = event.before.position)) ∧
    ∀ (lexer : Lexer) (source name : String), (lexer.tokenize source name).result = .ok tokens →
      (ofList tokens file :: ((ofList tokens file).events calls).map Event.after).Pairwise
        fun earlier later => earlier.position.offset ≤ later.position.offset ∧
          earlier.position.line ≤ later.position.line := by
  refine ⟨?_, ?_, ?_⟩
  · obtain ⟨passed, left, split, passes, last⟩ := exists_passed (ofList tokens file) calls
    obtain rfl : tokens = passed ++ left := split
    rw [last]
    refine ⟨passed, left, rfl, passes, rfl, ?_, ?_, ?_, ?_⟩
    · simp [hasTokens]
    · intro token first
      obtain ⟨rest, rfl⟩ := List.head?_eq_some_iff.mp first
      rfl
    · rintro rfl token final
      rw [List.append_nil] at final
      simpa [ofList] using position_at_end final
    · intro empty
      obtain ⟨rfl, rfl⟩ := List.append_eq_nil_iff.mp empty
      rfl
  · intro event mem
    have effect := effect_of_mem_events mem
    refine ⟨effect.succeeds_iff, ?_⟩
    intro fails
    obtain ⟨same, place⟩ := effect.eq_of_fails fails
    rw [same]
    exact ⟨rfl, rfl, rfl, place⟩
  · intro lexer source name ok
    have ordered : InOrder (ofList tokens file).tokens := inOrder_of_tokenize ok
    refine (pairwise_position ordered calls).imp ?_
    intro earlier later atMost
    exact ⟨atMost.offset_le, atMost.line_le⟩

/-- A literal is passed, one that is too large is refused and passed as a token after that, and at
the end a call fails. -/
theorem calls_on_tokens_around_overflow :
    let tokens : List Token :=
      [⟨.numericLiteral, "7", ⟨⟨0, 1, "s"⟩, ⟨1, 1, "s"⟩⟩⟩,
        ⟨.numericLiteral, "9223372036854775808", ⟨⟨2, 2, "s"⟩, ⟨21, 2, "s"⟩⟩⟩]
    let events := (ofList tokens "s").events [.primary, .primary, .advance, .expect .token]
    ((Lexer.new true).tokenize "7\n9223372036854775808" "s").result = .ok tokens ∧
      events.map (·.reply.succeeds) = [true, false, true, false] ∧
      events.map (·.after.position) = [⟨2, 2, "s"⟩, ⟨2, 2, "s"⟩, ⟨21, 2, "s"⟩, ⟨21, 2, "s"⟩] ∧
      (∀ event ∈ events, event.reply.succeeds = false →
        ∀ error ∈ event.reply.error?, error.position = event.before.position) ∧
      (ofList tokens "s" :: events.map Event.after).Pairwise fun earlier later =>
        earlier.position.offset ≤ later.position.offset ∧
          earlier.position.line ≤ later.position.line := by
  intro tokens events
  have ok : ((Lexer.new true).tokenize "7\n9223372036854775808" "s").result = .ok tokens := by cbv
  obtain ⟨-, steps, ordered⟩ :=
    calls_on_tokens tokens "s" [.primary, .primary, .advance, .expect .token]
  refine ⟨ok, by cbv, by cbv, ?_, ordered _ _ _ ok⟩
  intro event mem fails
  exact ((steps event mem).2 fails).2.2.2

end TokenStream

end Lexeme
