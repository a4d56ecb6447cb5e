import PublicPath.Proofs.ValueScanning

/-!
# The text behind a run of lexemes

Lexemes look at the text behind them, but no farther than its first character: it may lengthen a
line comment, the flags of a regular expression or the mark in front of it, and it may make a
comparison of an equals sign. Where it does none of these in one text and in another, the same
lexemes are read in front of both.
-/

namespace PublicPath.Proofs
open Text Statement

/-- What is read in front of the first text is read in front of the second one. -/
structure FollowsAs (after after' : List Char) : Prop where
  line : Stops (· ≠ '\n') after → Stops (· ≠ '\n') after'
  name : Stops isIdentifierPart after → Stops isIdentifierPart after'
  comment (c : Char) : StartsComment (c :: after') → StartsComment (c :: after)
  comparison (c : Char) : isComparison c after.head? = isComparison c after'.head?

section Follow

variable {after after' : List Char}

lemma stops_follow {p : Char → Bool} {front : List Char} {c d : Char} (hd : p d = p c)
    (h : Stops p (front ++ c :: after)) : Stops p (front ++ d :: after') := by
  cases front with
  | nil => exact stops_cons.mpr (hd.trans (stops_cons.mp h))
  | cons e front => exact stops_cons.mpr (stops_cons.mp h)

lemma followsAs_cons (c : Char) (cs ds : List Char) : FollowsAs (c :: cs) (c :: ds) := by
  constructor
  · intro h
    exact stops_cons.mpr (stops_cons.mp h)
  · intro h
    exact stops_cons.mpr (stops_cons.mp h)
  · intro d h
    exact (startsComment_congr ds cs).mp h
  · intro d
    rfl

lemma FollowsAs.prepend (h : FollowsAs after after') (front : List Char) :
    FollowsAs (front ++ after) (front ++ after') := by
  cases front with
  | nil => exact h
  | cons c front => exact followsAs_cons c _ _

/-- What stands farther behind makes no difference. -/
lemma followsAs_append (h : after ≠ []) (more : List Char) : FollowsAs after (after ++ more) := by
  cases after with
  | nil => exact absurd rfl h
  | cons c after => exact followsAs_cons c after (after ++ more)

/-- A line feed ends what the end of the source ends. -/
lemma followsAs_lineFeed (more : List Char) : FollowsAs [] ('\n' :: more) := by
  constructor
  · intro _
    exact stops_cons.mpr rfl
  · intro _
    exact stops_cons.mpr (not_isIdentifierPart_of_isBlank rfl)
  · intro c h
    simp [StartsComment] at h
  · intro c
    simp [isComparison]

lemma IsComment.follow {text : List Char} (h : FollowsAs after after') (hc : IsComment after text) :
    IsComment after' text := by
  cases hc with
  | line hbody hafter => exact .line hbody (h.line hafter)
  | block hbody => exact .block hbody

lemma IsLexeme.follow {last : Char} {x : Lexeme} (h : FollowsAs after after')
    (hx : IsLexeme last after x) : IsLexeme last after' x := by
  cases hx with
  | comment hc => exact .comment (hc.follow h)
  | blank hc => exact .blank hc
  | quoted hq hbody => exact .quoted hq hbody
  | regex hlast hbody hstart hflags hafter =>
    exact .regex hlast hbody hstart hflags (h.name hafter)
  | mark hb hq hstart hregex => exact .mark hb hq (fun hs => hstart (h.comment _ hs)) hregex

lemma ContextStep.follow {s t : Context} {offset : Nat} {x : Lexeme} (h : FollowsAs after after')
    (hx : ContextStep s offset after.head? x t) : ContextStep s offset after'.head? x t := by
  cases hx with
  | comment text => exact .comment text
  | blank c => exact .blank c
  | regex text => exact .regex text
  | quoted q text => exact .quoted q text
  | opens hc => exact .opens hc
  | closes hc hs => exact .closes hc hs
  | plain ho hc hend hassign =>
    apply ContextStep.plain ho hc hend
    intro he hs
    rw [← h.comparison, hassign he hs]

/-- A run of lexemes depends on the text behind it only as far as a single character goes. -/
lemma Reads.follow {offset : Nat} {s t : Context} {xs : List Lexeme} (h : FollowsAs after after')
    (hr : Reads after offset s xs t) : Reads after' offset s xs t := by
  induction hr with
  | nil offset s => exact .nil offset s
  | @cons offset s t u x xs hx hstep _ ih =>
    have hrest := h.prepend (textOf xs)
    exact .cons (hx.follow hrest) (hstep.follow hrest) ih

end Follow

end PublicPath.Proofs
