import Parley.Proofs.Engine
import Parley.Proofs.Template

/-!
# Templates put together from pieces

A template may be put together from texts and sources, each source between `${` and a brace. The
splitter finds the same pieces again, provided that nothing closes a source before its end
(`Parley.Template.IsSource`) and no expression begins inside of the texts
(`Parley.Template.OpensNothing`). The latter has to be asked of adjacent texts together, because
the two characters of `${` may come from two of them. What is found is the pieces, except that
adjacent texts are one and empty ones are left out (`Parley.Template.splitFrom_join`).

So what is rendered is the concatenation of what the pieces contribute, one after another
(`Parley.rendering_is_compositional`). A value contributes its text, and this text is never looked
at again: it may have `${`, braces and quotes in it.
-/

namespace Parley

namespace Template

/-- **No expression begins in the texts**, not even in adjacent ones put together. -/
def OpensNothing (pieces : List Segment) : Prop :=
  ∀ (before : List Segment) (texts : List (List Char)) (after : List Segment),
    pieces = before ++ texts.map .text ++ after → ¬['$', '\x7b'] <:+: texts.flatten

/-- The segments of pieces that are put together, where `text` holds the text in front of them,
last character first. -/
def gather (text : List Char) : List Segment → List Segment
  | [] => flush text []
  | .text s :: pieces => gather (s.reverse ++ text) pieces
  | .expression source :: pieces => flush text (.expression source :: gather [] pieces)

theorem opensNothing_nil : OpensNothing [] := by
  intro before texts after heq
  obtain ⟨hfront, -⟩ := List.append_eq_nil_iff.1 heq.symm
  obtain ⟨-, htexts⟩ := List.append_eq_nil_iff.1 hfront
  rw [List.map_eq_nil_iff.1 htexts]
  decide

/-- A run of texts begins with the first piece, or behind it. -/
theorem opensNothing_cons {piece : Segment} {pieces : List Segment} :
    OpensNothing (piece :: pieces) ↔
      (∀ (texts : List (List Char)) (after : List Segment),
        piece :: pieces = texts.map .text ++ after → ¬['$', '\x7b'] <:+: texts.flatten) ∧
      OpensNothing pieces := by
  constructor
  · intro h
    refine ⟨fun texts after heq => h [] texts after heq, ?_⟩
    rintro before texts after rfl
    exact h (piece :: before) texts after rfl
  · rintro ⟨hfirst, hrest⟩ before texts after heq
    cases before with
    | nil => exact hfirst texts after heq
    | cons first before => exact hrest before texts after (List.cons.inj heq).2

/-- A text that begins later has no more in it. -/
theorem OpensNothing.text_tail {c : Char} {s : List Char} {pieces : List Segment}
    (h : OpensNothing (.text (c :: s) :: pieces)) : OpensNothing (.text s :: pieces) := by
  obtain ⟨hfirst, hrest⟩ := opensNothing_cons.1 h
  refine opensNothing_cons.2 ⟨fun texts after heq => ?_, hrest⟩
  cases texts with
  | nil => exact hfirst [] _ rfl
  | cons t texts =>
    obtain ⟨ht, rfl⟩ := List.cons.inj heq
    cases ht
    intro hinfix
    refine hfirst ((c :: s) :: texts) after rfl ?_
    exact hinfix.trans (List.suffix_cons c _).isInfix

/-- A brace in front of the template comes from one of the texts in front. -/
theorem exists_texts_of_join {pieces : List Segment} {rest : List Char}
    (h : join pieces = '\x7b' :: rest) :
    ∃ (texts : List (List Char)) (after : List Segment) (behind : List Char),
      pieces = texts.map .text ++ after ∧ texts.flatten = '\x7b' :: behind := by
  induction pieces with
  | nil => cases h
  | cons piece pieces ih =>
    cases piece with
    | expression source => cases h
    | text s =>
      cases s with
      | cons c s =>
        obtain ⟨rfl, -⟩ := List.cons.inj h
        exact ⟨[_], pieces, s, rfl, List.append_nil _⟩
      | nil =>
        obtain ⟨texts, after, behind, rfl, hbehind⟩ := ih h
        exact ⟨[] :: texts, after, behind, rfl, hbehind⟩

/-- **No expression is found** at a character of a text. -/
theorem OpensNothing.open?_eq_none {c : Char} {s : List Char} {pieces : List Segment}
    (h : OpensNothing (.text (c :: s) :: pieces)) : open? (c :: (s ++ join pieces)) = none := by
  rw [open?_eq_none_iff]
  intro back heq
  obtain ⟨rfl, hback⟩ := List.cons.inj heq
  -- the two characters would stand next to each other in a run of texts
  have hbrace : join (.text s :: pieces) = '\x7b' :: back := hback
  obtain ⟨texts, after, behind, hpieces, hflatten⟩ := exists_texts_of_join hbrace
  cases texts with
  | nil => cases hflatten
  | cons t texts =>
    obtain ⟨ht, rfl⟩ := List.cons.inj hpieces
    cases ht
    refine absurd ?_ ((opensNothing_cons.1 h).1 (('$' :: s) :: texts) after rfl)
    have hrun : (('$' :: s) :: texts).flatten = '$' :: '\x7b' :: behind :=
      congrArg ('$' :: ·) hflatten
    rw [hrun]
    exact ⟨[], behind, rfl⟩

/-- **The splitter finds the pieces again.** -/
theorem splitFrom_join {pieces : List Segment}
    (hsources : ∀ source, .expression source ∈ pieces → IsSource source)
    (htexts : OpensNothing pieces) (text : List Char) :
    splitFrom text (join pieces) = gather text pieces := by
  induction pieces generalizing text with
  | nil => exact splitFrom_nil text
  | cons piece pieces ih =>
    have ih := ih (fun source hs => hsources source (List.mem_cons_of_mem _ hs))
      (opensNothing_cons.1 htexts).2
    cases piece with
    | expression source =>
      have hsource : IsSource source := hsources source List.mem_cons_self
      rw [join_cons, splitFrom_of_open (open?_eq_some_iff.2 ⟨rfl, hsource⟩), ih]
      rfl
    | text s =>
      clear hsources
      -- the text is read one character at a time
      change splitFrom text (s ++ join pieces) = gather (s.reverse ++ text) pieces
      induction s generalizing text with
      | nil => exact ih text
      | cons c s ihs =>
        rw [List.cons_append, splitFrom_of_not_open htexts.open?_eq_none,
          ihs (c :: text) htexts.text_tail, List.reverse_cons, List.append_assoc,
          List.singleton_append]

end Template

namespace Engine

variable {σ : Type} (engine : Engine) (host : Host σ) (invocation : Value)

/-- **What a piece contributes** to the text of a template: a text itself, and a source the text of
its value. -/
def contribution : Segment → StateM (Run σ) String
  | .text s => return String.ofList s
  | .expression source => do
    let v ← engine.evaluate host invocation (String.ofList source)
    return v.text

theorem renderSegments_flush (text : List Char) (segments : List Segment) :
    engine.renderSegments host invocation (Template.flush text segments) =
      (String.ofList text.reverse ++ ·) <$> engine.renderSegments host invocation segments := by
  cases text with
  | nil => simp [Template.flush]
  | cons c text => rfl

theorem contribution_text (s : List Char) (run : Run σ) :
    engine.contribution host invocation (.text s) run = (String.ofList s, run) := rfl

theorem contribution_expression (source : List Char) (run : Run σ) :
    engine.contribution host invocation (.expression source) run =
      ((engine.evaluate host invocation (String.ofList source) run).1.text,
        (engine.evaluate host invocation (String.ofList source) run).2) := rfl

/-- The segments of pieces are rendered piece by piece. -/
theorem renderSegments_gather (text : List Char) (pieces : List Segment) :
    engine.renderSegments host invocation (Template.gather text pieces) =
      (fun parts => String.ofList text.reverse ++ String.join parts) <$>
        pieces.mapM (engine.contribution host invocation) := by
  induction pieces generalizing text with
  | nil =>
    rw [Template.gather, renderSegments_flush, List.mapM_nil]
    rfl
  | cons piece pieces ih =>
    rw [List.mapM_cons]
    cases piece with
    | text s =>
      rw [Template.gather, ih, contribution, List.reverse_append, List.reverse_reverse]
      simp [String.append_assoc]
    | expression source =>
      rw [Template.gather, renderSegments_flush, renderSegments, ih, contribution]
      simp

end Engine

/-- **Rendering is compositional.** Let a template be put together from texts and from sources
between `${` and a brace, where every source has an even number of quotes and no brace outside of
string literals, and no run of adjacent texts has `${` in it. What is rendered is the concatenation
of what the pieces contribute: the texts as they are and the texts of the values, where each source
is evaluated once, from left to right. Nothing is demanded of the values. A source that fails
contributes the text about its own failure. -/
theorem rendering_is_compositional {σ : Type} (engine : Engine) (host : Host σ)
    (invocation : Value) {pieces : List Segment}
    (hsources : ∀ source, .expression source ∈ pieces → Template.IsSource source)
    (htexts : Template.OpensNothing pieces) :
    engine.render host invocation (String.ofList (Template.join pieces)) =
        String.join <$> pieces.mapM (engine.contribution host invocation) ∧
      ∀ source run failure run',
        engine.tryEvaluate host invocation (String.ofList source) run = (.error failure, run') →
        engine.contribution host invocation (.expression source) run =
          (failure.chatText, run') := by
  constructor
  · have hsplit : splitTemplate (String.ofList (Template.join pieces)) =
        Template.gather [] pieces := by
      rw [splitTemplate, String.toList_ofList]
      exact Template.splitFrom_join hsources htexts []
    rw [Engine.render, hsplit, Engine.renderSegments_gather]
    simp
  · intro source run failure run' hfailure
    rw [Engine.contribution_expression, Engine.evaluate_apply, hfailure]
    rfl

/-- A text ends in a dollar sign, and the value behind it looks like the rest of an expression. The
next source is empty, which is an error, and the text behind it begins with a brace. -/
theorem rendering_is_compositional_injection :
    (Engine.render ⟨[.invocation]⟩ (⟨fun _ _ s => (.ok .null, s)⟩ : Host Unit)
        (.object [("x", .string "\x7b$\x7bx\x7d\"")]) "$$\x7bx\x7d$\x7b\x7d\x7b" ⟨(), []⟩).1 =
      "$\x7b$\x7bx\x7d\"Could not evaluate expression\x7b" := by
  have hsources : ∀ source, .expression source ∈
      [Segment.text ['$'], .expression ['x'], .expression [], .text ['\x7b']] →
        Template.IsSource source := by
    intro source hs
    have hsource : source = ['x'] ∨ source = [] := by simpa using hs
    have hbrace : '\x7d' ∉ source := by rcases hsource with rfl | rfl <;> decide
    have heven : Template.EvenQuotes source := by rcases hsource with rfl | rfl <;> rfl
    refine ⟨heven, fun front back heq => ?_⟩
    exact absurd (heq ▸ List.mem_append_right front List.mem_cons_self) hbrace
  have htexts : Template.OpensNothing
      [.text ['$'], .expression ['x'], .expression [], .text ['\x7b']] := by
    simp only [Template.opensNothing_cons]
    refine ⟨?_, ?_, ?_, ?_, Template.opensNothing_nil⟩
    all_goals rintro (_ | ⟨_, _ | _⟩) _ ⟨⟩ <;> decide
  obtain ⟨hrender, hfailing⟩ := rendering_is_compositional ⟨[.invocation]⟩
    (⟨fun _ _ s => (.ok .null, s)⟩ : Host Unit) (.object [("x", .string "\x7b$\x7bx\x7d\"")])
    hsources htexts
  -- what the two sources contribute
  have hvalue : Engine.contribution ⟨[.invocation]⟩ (⟨fun _ _ s => (.ok .null, s)⟩ : Host Unit)
      (.object [("x", .string "\x7b$\x7bx\x7d\"")]) (.expression ['x']) ⟨(), []⟩ =
        ("\x7b$\x7bx\x7d\"", ⟨(), []⟩) := by
    have hlex : tokenize "x" = ⟨[⟨.identifier, "x", 1⟩], []⟩ := by decide +kernel
    have hparse : parse "x" = .ok (.term (.path ⟨.identifier, "x", 1⟩ [])) := by
      rw [parse_eq_ok_iff, hlex]
      exact ⟨rfl, .term (.path rfl .nil)⟩
    rw [Engine.contribution_expression, Engine.evaluate_apply,
      Engine.tryEvaluate_of_ok _ _ _ hparse]
    rfl
  have hempty : parse "" = .error [⟨.expectedValue none, 1⟩] := by
    have hlex : tokenize "" = ⟨[], []⟩ := by decide +kernel
    rw [parse, hlex]
    rfl
  have hfailure := hfailing [] ⟨(), []⟩ _ _ (Engine.tryEvaluate_of_error _ _ _ hempty _)
  have hjoin : "$$\x7bx\x7d$\x7b\x7d\x7b" = String.ofList (Template.join
      [.text ['$'], .expression ['x'], .expression [], .text ['\x7b']]) := by decide +kernel
  have hstep : ∀ (f : Segment → StateM (Run Unit) String) piece pieces run,
      (List.mapM f (piece :: pieces)) run =
        ((f piece run).1 :: (List.mapM f pieces (f piece run).2).1,
          (List.mapM f pieces (f piece run).2).2) := by
    intro f piece pieces run
    rw [List.mapM_cons]
    rfl
  have hmap : ∀ (x : StateM (Run Unit) (List String)) run,
      (String.join <$> x) run = (String.join (x run).1, (x run).2) := fun _ _ => rfl
  rw [hjoin, hrender]
  simp only [hmap, hstep, Engine.contribution_text, hvalue, hfailure, List.mapM_nil]
  decide +kernel

end Parley
