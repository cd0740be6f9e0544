import Runbook.Cli
import Runbook.Proofs.Text.Marks
import Runbook.Proofs.Text.Stripping

/-! # Joined tokens

A line that tokens are joined to splits into these tokens again. A plain token is
written as it is and is read character by character. Any other token is written inside
single quotes, where everything stands for itself; at a single quote in the token the
quotes are closed, and they are opened again behind it. No blank stands at either end
of such a line, so nothing is lost when blanks are cut off.
-/

namespace Runbook.Tokens

open Text (isMark Trimmed)

/-! ## Plain characters -/

/-- Plain characters are visible characters of ASCII. -/
theorem code_of_isPlain {c : Char} (plain : isPlain c = true) : 32 < c.toNat ∧ c.toNat < 127 := by
  have code : c.val.toNat = c.toNat := rfl
  have letter : c.isAlpha = (decide (65 ≤ c.val ∧ c.val ≤ 90) ||
      (decide (97 ≤ c.val) && decide (c.val ≤ 122))) := rfl
  simp only [isPlain, Bool.or_eq_true, beq_iff_eq, Char.isAlphanum, letter, Char.isDigit,
    Bool.and_eq_true, decide_eq_true_eq, UInt32.le_iff_toNat_le, code, or_assoc] at plain
  rcases plain with range | range | range | same | same | same | same | same | same | same |
    same | same | same
  iterate 3
    · simp at range
      omega
  all_goals
    subst same
    decide

theorem isMark_of_isPlain {c : Char} (plain : isPlain c = true) : isMark c = true := by
  have code := code_of_isPlain plain
  simp [isMark, Text.isBlank]
  omega

/-- A character that stands for itself even outside of quotes. -/
structure Literal (c : Char) : Prop where
  notSeparator : isSeparator c = false
  notEscape : c ≠ '\\'
  notQuote : isQuote c = false

theorem literal_of_isPlain {c : Char} (plain : isPlain c = true) : Literal c := by
  have different : ∀ other, isPlain other = false → c ≠ other := by
    rintro other special rfl
    rw [plain] at special
    contradiction
  constructor
  · simp [isSeparator, different ' ' rfl, different '\t' rfl, different '\r' rfl,
      different '\n' rfl]
  · exact different '\\' rfl
  · simp [isQuote, different '\'' rfl, different '"' rfl]

theorem literal_of_all {text : List Char} (plain : text.all isPlain = true) :
    ∀ c ∈ text, Literal c :=
  fun c member => literal_of_isPlain (List.all_eq_true.mp plain c member)

/-! ## One token -/

theorem splitFrom_literal {text : List Char} (literal : ∀ c ∈ text, Literal c)
    (current rest : List Char) :
    splitFrom .inToken current (text ++ rest) =
      splitFrom .inToken (text.reverse ++ current) rest := by
  induction text generalizing current with
  | nil => rfl
  | cons c text induction =>
      have first := literal c List.mem_cons_self
      have others := fun other member => literal other (List.mem_cons_of_mem c member)
      rw [List.cons_append, splitFrom]
      simp [first.notSeparator, first.notEscape, first.notQuote, induction others]

/-- The first character of a token decides nothing when it is literal. -/
theorem splitFrom_between {text : List Char} (literal : ∀ c ∈ text, Literal c)
    (nonempty : text ≠ []) (current rest : List Char) :
    splitFrom .between current (text ++ rest) = splitFrom .inToken text.reverse rest := by
  cases text with
  | nil => contradiction
  | cons c text =>
      have first := literal c List.mem_cons_self
      have others := fun other member => literal other (List.mem_cons_of_mem c member)
      rw [List.cons_append, splitFrom]
      simp [first.notSeparator, first.notEscape, first.notQuote, splitFrom_literal others]

/-- Inside quotes everything stands for itself up to the closing quote, apart from a
backslash inside double quotes. -/
theorem splitFrom_quoted {quote : Char} {text : List Char} (unclosed : quote ∉ text)
    (literal : quote = '"' → '\\' ∉ text) (current rest : List Char) :
    splitFrom (.inQuotes quote) current (text ++ quote :: rest) =
      splitFrom .inToken (text.reverse ++ current) rest := by
  induction text generalizing current with
  | nil => simp [splitFrom]
  | cons c text induction =>
      have different : c ≠ quote := fun same => unclosed (same ▸ List.mem_cons_self)
      have unescaped : ¬(c = '\\' ∧ quote = '"') := fun ⟨escape, double⟩ =>
        literal double (escape ▸ List.mem_cons_self)
      have others := induction (List.not_mem_of_not_mem_cons unclosed)
        fun double => List.not_mem_of_not_mem_cons (literal double)
      rw [List.cons_append, splitFrom]
      simp [different, unescaped, others]

/-- How a character is written inside single quotes. -/
def enclosed (c : Char) : List Char := if c == '\'' then ['\'', '"', '\'', '"', '\''] else [c]

theorem enclose_eq (token : List Char) :
    enclose token = '\'' :: (token.flatMap enclosed ++ ['\'']) := rfl

theorem splitFrom_enclosed (token current rest : List Char) :
    splitFrom (.inQuotes '\'') current (token.flatMap enclosed ++ '\'' :: rest) =
      splitFrom .inToken (token.reverse ++ current) rest := by
  induction token generalizing current with
  | nil => simp [splitFrom]
  | cons c token induction =>
      by_cases quote : c = '\''
      · subst quote
        simp [enclosed, splitFrom, isSeparator, isQuote, induction]
      · simp [enclosed, splitFrom, quote, induction]

theorem splitFrom_quoteToken (token current rest : List Char) :
    splitFrom .between current (quoteToken token ++ rest) =
      splitFrom .inToken token.reverse rest := by
  rw [quoteToken]
  split
  · rename_i plain
    rw [Bool.and_eq_true] at plain
    exact splitFrom_between (literal_of_all plain.2) (by simpa using plain.1) current rest
  · have opened : isQuote '\'' = true := rfl
    rw [enclose_eq, List.cons_append, List.append_assoc, List.cons_append, List.nil_append,
      splitFrom]
    simp [isSeparator, opened, splitFrom_enclosed]

/-! ## All tokens -/

theorem splitFrom_intercalate (tokens : List (List Char)) (current : List Char) :
    splitFrom .between current (([' '] : List Char).intercalate (tokens.map quoteToken)) =
      .ok tokens := by
  induction tokens generalizing current with
  | nil => rfl
  | cons token tokens induction =>
      cases tokens with
      | nil =>
          have whole := splitFrom_quoteToken token current []
          rw [List.append_nil] at whole
          rw [List.map_singleton, List.intercalate_singleton, whole, splitFrom,
            List.reverse_reverse]
      | cons next tokens =>
          rw [List.map_cons, List.map_cons, List.intercalate_cons_cons, List.append_assoc,
            splitFrom_quoteToken, List.singleton_append, splitFrom, ← List.map_cons, induction]
          simp [isSeparator, Except.map]

theorem toList_join (tokens : List String) :
    (join tokens).toList =
      ([' '] : List Char).intercalate ((tokens.map String.toList).map quoteToken) := by
  rw [join, String.toList_ofList, List.map_map]
  rfl

theorem split_join (tokens : List String) : split (join tokens) = .ok tokens := by
  rw [split, toList_join, splitFrom_intercalate, Except.map, List.map_map]
  simp

/-! ## The ends of the line -/

theorem quoteToken_ne_nil (token : List Char) : quoteToken token ≠ [] := by
  rw [quoteToken]
  split
  · rename_i plain
    rw [Bool.and_eq_true] at plain
    simpa using plain.1
  · simp [enclose]

theorem trimmed_quoteToken (token : List Char) : Trimmed (quoteToken token) := by
  have mark : isMark '\'' = true := rfl
  rw [quoteToken]
  split
  · rename_i plain
    rw [Bool.and_eq_true, List.all_eq_true] at plain
    exact ⟨fun c first => isMark_of_isPlain (plain.2 c (List.mem_of_head? first)),
      fun c last => isMark_of_isPlain (plain.2 c (List.mem_of_getLast? last))⟩
  · have last : (enclose token).getLast? = some '\'' := by
      rw [enclose_eq, ← List.cons_append, List.getLast?_append]
      rfl
    constructor
    · rintro c ⟨⟩
      exact mark
    · intro c isLast
      rw [last] at isLast
      exact Option.some.inj isLast ▸ mark

theorem trimmed_append {first last : List Char} (atStart : Trimmed first) (atEnd : Trimmed last)
    (starts : first ≠ []) (ends : last ≠ []) (between : List Char) :
    Trimmed (first ++ between ++ last) := by
  constructor
  · intro c isFirst
    rw [List.append_assoc, List.head?_append_of_ne_nil _ starts] at isFirst
    exact atStart.first c isFirst
  · intro c isLast
    rw [List.getLast?_append_of_ne_nil _ ends] at isLast
    exact atEnd.last c isLast

theorem trimmed_intercalate (between token : List Char) (tokens : List (List Char)) :
    between.intercalate ((token :: tokens).map quoteToken) ≠ [] ∧
      Trimmed (between.intercalate ((token :: tokens).map quoteToken)) := by
  induction tokens generalizing token with
  | nil =>
      rw [List.map_singleton, List.intercalate_singleton]
      exact ⟨quoteToken_ne_nil token, trimmed_quoteToken token⟩
  | cons next tokens induction =>
      have starts := quoteToken_ne_nil token
      rcases induction next with ⟨ends, trimmed⟩
      rw [List.map_cons] at ends trimmed
      rw [List.map_cons, List.map_cons, List.intercalate_cons_cons]
      exact ⟨by simp [starts], trimmed_append (trimmed_quoteToken token) trimmed starts ends between⟩

/-- No blank stands at an end of a joined line, and only without tokens it is empty. -/
theorem ends_join {tokens : List String} (nonempty : tokens ≠ []) :
    (join tokens).toList ≠ [] ∧ Trimmed (join tokens).toList := by
  cases tokens with
  | nil => contradiction
  | cons token tokens =>
      rw [toList_join, List.map_cons]
      exact trimmed_intercalate [' '] token.toList (tokens.map String.toList)

theorem strip_join (tokens : List String) :
    String.ofList (Text.strip (join tokens).toList) = join tokens := by
  cases tokens with
  | nil => rfl
  | cons token tokens =>
      have trimmed := (ends_join (List.cons_ne_nil token tokens)).2
      have kept := @Text.strip_append_of_trimmed [] _ (by simp) trimmed
      rw [List.nil_append] at kept
      rw [kept, String.ofList_toList]

/-! ## Neighbours in the line -/

/-- A character that is not written by joining, unless it is in a token. -/
structure Unwritten (c : Char) : Prop where
  notBlank : ' ' ≠ c
  notSingle : '\'' ≠ c
  notDouble : '"' ≠ c

theorem head?_flatMap_enclosed (token : List Char) :
    (token.flatMap enclosed).head? = token.head? := by
  cases token with
  | nil => rfl
  | cons c token =>
      by_cases quote : c = '\''
      · simp [enclosed, quote]
      · simp [enclosed, quote]

section Neighbours

variable {a b : Char} (first : Unwritten a) (second : Unwritten b)
include first second

omit second in
theorem pair_of_enclosed {token : List Char} (pair : [a, b] <:+: token.flatMap enclosed) :
    [a, b] <:+: token := by
  induction token with
  | nil => exact pair
  | cons c token induction =>
      rw [Text.pair_cons_iff]
      rw [List.flatMap_cons] at pair
      by_cases quote : c = '\''
      · have shape : enclosed c = ['\'', '"', '\'', '"', '\''] := by rw [quote]; rfl
        simp only [shape, List.cons_append, List.nil_append, Text.pair_cons_of_ne first.notSingle,
          Text.pair_cons_of_ne first.notDouble] at pair
        exact .inr (induction pair)
      · have shape : enclosed c = [c] := if_neg (by simpa using quote)
        rw [shape, List.singleton_append, Text.pair_cons_iff, head?_flatMap_enclosed] at pair
        exact pair.imp_right induction

theorem pair_of_quoteToken {token : List Char} (pair : [a, b] <:+: quoteToken token) :
    [a, b] <:+: token := by
  rw [quoteToken] at pair
  split at pair
  · exact pair
  · rw [enclose_eq, Text.pair_cons_of_ne first.notSingle,
      Text.pair_append_cons_iff first.notSingle second.notSingle] at pair
    rcases pair with pair | pair
    · exact pair_of_enclosed first pair
    · simp at pair

/-- Characters that stand next to each other in a joined line do so in one of the tokens. -/
theorem exists_token_of_pair {tokens : List String} (pair : [a, b] <:+: (join tokens).toList) :
    ∃ token ∈ tokens, [a, b] <:+: token.toList := by
  rw [toList_join] at pair
  induction tokens with
  | nil => simp [List.intercalate] at pair
  | cons token tokens induction =>
      cases tokens with
      | nil =>
          rw [List.map_singleton, List.map_singleton, List.intercalate_singleton] at pair
          exact ⟨token, List.mem_singleton_self token, pair_of_quoteToken first second pair⟩
      | cons next tokens =>
          rw [List.map_cons, List.map_cons, List.map_cons, List.map_cons,
            List.intercalate_cons_cons, List.append_assoc, List.singleton_append,
            Text.pair_append_cons_iff first.notBlank second.notBlank] at pair
          rcases pair with pair | pair
          · exact ⟨token, List.mem_cons_self, pair_of_quoteToken first second pair⟩
          · rcases induction pair with ⟨other, member, found⟩
            exact ⟨other, List.mem_cons_of_mem token member, found⟩

end Neighbours

end Runbook.Tokens

namespace Runbook

/-! ## The command line of the program -/

namespace Engine

/-- Run the line outside of scripts that has these tokens. -/
def runTokens (fuel : Nat) (surroundings : Surroundings) (line : String)
    (tokens : List String) : Run Bool := do
  let files := (← get).files
  match ← Run.ofLogged (Resolution.ofTokens surroundings.characters surroundings.profiles files
      false tokens) with
  | .refused error => refuse surroundings false error
  | .help command =>
      surroundings.say (command.helpScreen true true)
      return true
  | .ready setup => dispatch (runBlock fuel) fuel surroundings line setup none

theorem runCommandLine_join (fuel : Nat) (surroundings : Surroundings) {tokens : List String}
    (nonempty : tokens ≠ []) :
    runCommandLine fuel surroundings (Tokens.join tokens) =
      runTokens fuel surroundings (Tokens.join tokens) tokens := by
  have written : (Tokens.join tokens == "") = false := by
    have ends := (Tokens.ends_join nonempty).1
    simpa using ends
  rw [runCommandLine, Tokens.strip_join]
  dsimp only
  rw [written, Tokens.split_join]
  rfl

end Engine

/-- The tokens that are resolved when the program is started with some arguments. -/
def Cli.tokensOf (arguments : List String) : List String :=
  if arguments.isEmpty then ["help"] else arguments

theorem Cli.lineOf_eq_join (arguments : List String) :
    lineOf arguments = Tokens.join (tokensOf arguments) := by
  cases arguments with
  | nil => decide
  | cons => rfl

theorem Cli.tokensOf_ne_nil (arguments : List String) : tokensOf arguments ≠ [] := by
  cases arguments <;> simp [tokensOf]

/-- Tokens are not changed by joining them, by cutting blanks off the line that they are
joined to, and by splitting it again. So the program resolves its arguments as they are. -/
theorem tokens_survive_joining (tokens : List String) :
    Tokens.split (Tokens.join tokens) = .ok tokens ∧
      Tokens.split (String.ofList (Text.strip (Tokens.join tokens).toList)) = .ok tokens ∧
      ∀ fuel surroundings,
        Engine.runCommandLine fuel surroundings (Cli.lineOf tokens) =
          Engine.runTokens fuel surroundings (Cli.lineOf tokens) (Cli.tokensOf tokens) := by
  refine ⟨Tokens.split_join tokens, ?_, fun fuel surroundings => ?_⟩
  · rw [Tokens.strip_join, Tokens.split_join]
  · rw [Cli.lineOf_eq_join]
    exact Engine.runCommandLine_join fuel surroundings (Cli.tokensOf_ne_nil tokens)

/-- A token with both kinds of quotes, a backslash and a blank in it, and an empty one. -/
example : Tokens.join ["a'b\"c\\ ", ""] = "'a'\"'\"'b\"c\\ ' ''" := by decide

end Runbook
