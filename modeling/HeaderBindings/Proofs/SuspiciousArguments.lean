import HeaderBindings.Check
import HeaderBindings.Proofs.Occurrences

/-!
# Arguments whose type looks like a guess

An argument is reported if its type mentions `int` and its tokens do not.  The tokens are looked
through as one text, with blanks between them.  A word without a blank is mentioned there only
inside a token (`Argument.mentions_tokenText`), so joining the tokens neither makes a mention out
of two of them nor hides one.

**Results.**
* `Argument.isSuspicious_iff`: an argument is suspected exactly if it looks guessed from its
  tokens one by one.
* `Argument.reported_by_single_tokens`: what is reported about any argument.
-/

namespace HeaderBindings

section Mentions

/-- A text mentions a word if the word is a stretch of it. -/
theorem mentions_iff (word text : String) :
    mentions word text = true ↔ word.toList <:+: text.toList := by
  rw [mentions, Text.isInside_iff]
  exact exists_congr fun before => exists_congr fun after => eq_comm

theorem mentions_eq_false_iff (word text : String) :
    mentions word text = false ↔ ¬word.toList <:+: text.toList := by
  rw [← mentions_iff, Bool.not_eq_true]

end Mentions

namespace Argument

section Tokens

theorem tokenText_eq (argument : Argument) :
    argument.tokenText = " ".intercalate argument.tokens := by
  rw [← String.toList_inj, String.toList_intercalate, tokenText, String.toList_ofList,
    Text.join_eq_intercalate]
  rfl

/-- The tokens together mention a word without a blank exactly if one of them does. -/
theorem mentions_tokenText (argument : Argument) {word : String} (hword : word ≠ "")
    (hblank : ' ' ∉ word.toList) :
    mentions word argument.tokenText = argument.tokens.any (mentions word) := by
  have hletters : word.toList ≠ [] := by simpa using hword
  rw [mentions, tokenText, String.toList_ofList, Text.isInside_join hletters hblank, List.any_map]
  rfl

end Tokens

section Reports

/-- Whether the type of an argument is spelled with `int`, but not with `unsigned int`, and no
single token has `int` in it. -/
def LooksGuessed (argument : Argument) : Prop :=
  "int".toList <:+: argument.type.spelling.toList ∧
    ¬"unsigned int".toList <:+: argument.type.spelling.toList ∧
    ∀ token ∈ argument.tokens, ¬"int".toList <:+: token.toList

theorem isSuspicious_iff (argument : Argument) :
    argument.isSuspicious = true ↔ argument.LooksGuessed := by
  have htokens : mentions "int" argument.tokenText = false ↔
      ∀ token ∈ argument.tokens, ¬"int".toList <:+: token.toList := by
    rw [argument.mentions_tokenText (by decide) (by decide), List.any_eq_false]
    exact forall₂_congr fun token _ => not_congr (mentions_iff "int" token)
  rw [isSuspicious, Bool.and_eq_true, Bool.and_eq_true, Bool.not_eq_true', Bool.not_eq_true',
    mentions_iff, htokens, mentions_eq_false_iff, and_assoc]
  exact and_congr_right fun _ => and_comm

/-- An argument is reported by what its tokens say one by one.

There is exactly one diagnostic, at the place of the argument, if its type looks guessed from its
single tokens, and otherwise there is none.  The tokens joined by blanks, which are what is looked
through, have `int` in them exactly if one token has. -/
theorem reported_by_single_tokens (argument : Argument) :
    (argument.LooksGuessed → argument.problems =
      [{ kind := .invalidArgumentType
         message := "Invalid argument type detected: " ++ argument.type.spelling ++ " != " ++
           " ".intercalate argument.tokens
         position := some argument.position }]) ∧
    (¬argument.LooksGuessed → argument.problems = []) ∧
    ("int".toList <:+: (" ".intercalate argument.tokens).toList ↔
      ∃ token ∈ argument.tokens, "int".toList <:+: token.toList) := by
  refine ⟨fun hguessed => ?_, fun hsound => ?_, ?_⟩
  · rw [problems, if_pos (argument.isSuspicious_iff.2 hguessed), tokenText_eq]
  · rw [problems, if_neg (mt argument.isSuspicious_iff.1 hsound)]
  · rw [← mentions_iff, ← tokenText_eq, argument.mentions_tokenText (by decide) (by decide),
      List.any_eq_true]
    exact exists_congr fun token => and_congr_right fun _ => mentions_iff "int" token

/-- An argument whose tokens would mention `int` if no blank came between them. -/
def splitArgument : Argument where
  name := "n"
  type := { kind := .int, spelling := "const int" }
  tokens := ["in", "", "t", "n"]
  position := { file := "a.h", line := 3, column := 7 }

/-- The argument is reported although its tokens spell `int` together. -/
theorem reported_by_single_tokens_split :
    splitArgument.LooksGuessed ∧ ∃ diagnostic, splitArgument.problems = [diagnostic] ∧
      diagnostic.render =
        "WARN Invalid argument type detected: const int != in  t n at a.h:3:7" := by
  have hguessed : splitArgument.LooksGuessed :=
    splitArgument.isSuspicious_iff.1 (by decide +kernel)
  exact ⟨hguessed, _, (reported_by_single_tokens splitArgument).1 hguessed, by decide +kernel⟩

end Reports

end Argument
end HeaderBindings
