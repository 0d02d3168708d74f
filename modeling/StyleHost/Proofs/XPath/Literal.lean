import Mathlib.Data.List.Basic
import StyleHost.Text.Space
import StyleHost.Transform.Processor

/-!
# Reading a quoted text back

An expression of XPath 1.0 is cut into tokens and the tokens are parsed. Here are the tokens that
matter for a quoted text (string literals, names, and single signs), and the expressions that are a
string literal or a call with string literals. Tokens of any other kind make no such expression.

* `XPath.lex` : the tokens of a text, one character at a time; a literal ends only at the quote that
  began it, and a text that ends inside of a literal has no tokens.
* `XPath.Expr.read` : the expression that a text is.
* `XPath.Expr.value` : its value, as far as it is a literal or a call of `concat`.

Reading `XPath.literal s` gives an expression whose value is `s` (`XPath.read_literal`). So a text
that reaches the engine through `literal` adds nothing but its characters.
-/

namespace StyleHost

namespace XPath

/-! ### Tokens -/

/-- A token of an expression. -/
inductive Token where
  | literal (cs : List Char)
  | name (cs : List Char)
  | sign (c : Char)
deriving DecidableEq

/-- Where the reading of tokens stands. The characters of a token that has begun are kept in
reverse. -/
inductive Mode where
  | between
  | inside (delimiter : Char) (seen : List Char)
  | word (seen : List Char)

/-- Whether a name may begin with a character. -/
def startsName (c : Char) : Bool := c.isAlpha || c == '_' || 0x7F < c.toNat

/-- Whether a name may go on with a character. -/
def continuesName (c : Char) : Bool := startsName c || c.isDigit || c == '-' || c == '.'

/-- What a character does that does not belong to a token before it. -/
def beginToken (c : Char) : List Token × Mode :=
  if c = '\'' ∨ c = '"' then ([], .inside c [])
  else if Text.isXmlSpace c then ([], .between)
  else if startsName c then ([], .word [c])
  else ([.sign c], .between)

/-- The tokens that one character ends, and where the reading stands after it. -/
def lexStep : Mode → Char → List Token × Mode
  | .between, c => beginToken c
  | .inside delimiter seen, c =>
    if c = delimiter then ([.literal seen.reverse], .between)
    else ([], .inside delimiter (c :: seen))
  | .word seen, c =>
    if continuesName c then ([], .word (c :: seen))
    else (.name seen.reverse :: (beginToken c).1, (beginToken c).2)

/-- The tokens that a text ends, and where the reading stands after it. -/
def lexRun (mode : Mode) : List Char → List Token × Mode
  | [] => ([], mode)
  | c :: cs =>
    let rest := lexRun (lexStep mode c).2 cs
    ((lexStep mode c).1 ++ rest.1, rest.2)

/-- The tokens of a text. A name may end with the text, a literal must have ended before. -/
def lex (cs : List Char) : Option (List Token) :=
  match lexRun .between cs with
  | (tokens, .between) => some tokens
  | (tokens, .word seen) => some (tokens ++ [.name seen.reverse])
  | (_, .inside _ _) => none

/-! ### Expressions -/

/-- An expression made of string literals. -/
inductive Expr where
  | literal (cs : List Char)
  | call (function : List Char) (args : List (List Char))
deriving DecidableEq

namespace Expr

/-- The arguments of a call, from behind its opening parenthesis to its end. -/
def parseArgs : List Token → Option (List (List Char))
  | [.literal cs, .sign ')'] => some [cs]
  | .literal cs :: .sign ',' :: rest => (parseArgs rest).map (cs :: ·)
  | _ => none

/-- The expression that some tokens are, and nothing beside it. -/
def parse : List Token → Option Expr
  | [.literal cs] => some (.literal cs)
  | .name function :: .sign '(' :: rest => (parseArgs rest).map (.call function)
  | _ => none

/-- The expression that a text is. -/
def read (text : String) : Option Expr := (lex text.toList).bind parse

/-- The value of an expression: a literal stands for its characters, and `concat` joins two
arguments or more. -/
def value : Expr → Option (List Char)
  | .literal cs => some cs
  | .call function args =>
    if function = "concat".toList ∧ 2 ≤ args.length then some args.flatten else none

/-- An expression as a quoted text should be: one literal, or a call of `concat` with two arguments
or more. -/
def IsQuoted (e : Expr) : Prop :=
  (∃ cs, e = .literal cs) ∨ ∃ args, 2 ≤ args.length ∧ e = .call "concat".toList args

end Expr

/-! ### The tokens of a quoted text -/

variable {cs cs' : List Char} {parts : List (List Char)} {mode mode' mode'' : Mode}
  {tokens tokens' : List Token}

theorem lexRun_append (h : lexRun mode cs = (tokens, mode'))
    (h' : lexRun mode' cs' = (tokens', mode'')) :
    lexRun mode (cs ++ cs') = (tokens ++ tokens', mode'') := by
  induction cs generalizing mode tokens with
  | nil =>
    cases h
    exact h'
  | cons c cs ih =>
    rw [lexRun] at h
    cases h
    rw [List.cons_append, lexRun, ih rfl, List.append_assoc]

/-- A literal goes on up to its delimiter. -/
theorem lexRun_inside {delimiter : Char} (h : delimiter ∉ cs) (seen : List Char) :
    lexRun (.inside delimiter seen) (cs ++ [delimiter]) =
      ([.literal (seen.reverse ++ cs)], .between) := by
  induction cs generalizing seen with
  | nil => simp [lexRun, lexStep]
  | cons c cs ih =>
    obtain ⟨hc, hcs⟩ := not_or.1 (mt List.mem_cons.2 h)
    have hstep : lexStep (.inside delimiter seen) c = ([], .inside delimiter (c :: seen)) :=
      if_neg (Ne.symm hc)
    simp [lexRun, hstep, ih hcs]

theorem lexRun_singleQuoted (h : '\'' ∉ cs) :
    lexRun .between (singleQuoted cs) = ([.literal cs], .between) :=
  lexRun_inside h []

theorem lexRun_doubleQuoted (h : '"' ∉ cs) :
    lexRun .between (doubleQuoted cs) = ([.literal cs], .between) :=
  lexRun_inside h []

theorem lexRun_opening : lexRun .between "concat(".toList =
    ([.name "concat".toList, .sign '('], .between) := rfl

theorem lexRun_separator : lexRun .between ", \"'\", ".toList =
    ([.sign ',', .literal ['\''], .sign ','], .between) := rfl

/-- The tokens of the arguments of a call, and of its closing parenthesis. -/
def argTokens : List (List Char) → List Token
  | [] => [.sign ')']
  | [arg] => [.literal arg, .sign ')']
  | arg :: args => .literal arg :: .sign ',' :: argTokens args

theorem argTokens_cons {arg : List Char} {args : List (List Char)} (h : args ≠ []) :
    argTokens (arg :: args) = .literal arg :: .sign ',' :: argTokens args := by
  cases args with
  | nil => contradiction
  | cons next args => rfl

theorem parseArgs_argTokens {args : List (List Char)} (hne : args ≠ []) :
    Expr.parseArgs (argTokens args) = some args := by
  induction args with
  | nil => contradiction
  | cons arg args ih =>
    by_cases h : args = []
    · subst h
      rfl
    · rw [argTokens_cons h, Expr.parseArgs, ih h]
      rfl

theorem intersperse_ne_nil (part : List Char) (parts : List (List Char)) :
    (part :: parts).intersperse ['\''] ≠ [] := by
  cases parts <;> exact List.cons_ne_nil _ _

theorem lexRun_joinParts (hne : parts ≠ []) (h : ∀ part ∈ parts, '\'' ∉ part) :
    lexRun .between (joinParts parts ++ [')']) =
      (argTokens (parts.intersperse ['\'']), .between) := by
  induction parts with
  | nil => contradiction
  | cons part parts ih =>
    obtain ⟨hpart, hparts⟩ := List.forall_mem_cons.1 h
    have hquoted := lexRun_singleQuoted hpart
    cases parts with
    | nil => exact lexRun_append hquoted rfl
    | cons next parts =>
      have hrest := ih (List.cons_ne_nil _ _) hparts
      have hjoin : joinParts (part :: next :: parts) =
        singleQuoted part ++ ", \"'\", ".toList ++ joinParts (next :: parts) := rfl
      -- between two parts stands the literal that is one single quote
      rw [hjoin, List.append_assoc, List.append_assoc, List.intersperse_cons_cons,
        argTokens_cons (List.cons_ne_nil _ _), argTokens_cons (intersperse_ne_nil _ _)]
      exact lexRun_append hquoted (lexRun_append lexRun_separator hrest)

/-! ### The parts of a text -/

theorem splitAtSingle_quote : splitAtSingle ('\'' :: cs) = [] :: splitAtSingle cs := if_pos rfl

theorem exists_splitAtSingle (cs : List Char) :
    ∃ part parts, splitAtSingle cs = part :: parts := by
  refine List.exists_cons_of_ne_nil ?_
  cases cs with
  | nil => exact List.cons_ne_nil _ _
  | cons c cs =>
    rw [splitAtSingle]
    split
    · exact List.cons_ne_nil _ _
    · split <;> exact List.cons_ne_nil _ _

theorem splitAtSingle_of_ne {c : Char} {part : List Char} (hc : c ≠ '\'')
    (h : splitAtSingle cs = part :: parts) : splitAtSingle (c :: cs) = (c :: part) :: parts := by
  rw [splitAtSingle, if_neg hc, h]

theorem not_mem_splitAtSingle : ∀ part ∈ splitAtSingle cs, '\'' ∉ part := by
  induction cs with
  | nil => simp [splitAtSingle]
  | cons c cs ih =>
    by_cases hc : c = '\''
    · subst hc
      rw [splitAtSingle_quote, List.forall_mem_cons]
      exact ⟨List.not_mem_nil, ih⟩
    · obtain ⟨part, parts, h⟩ := exists_splitAtSingle cs
      rw [h, List.forall_mem_cons] at ih
      rw [splitAtSingle_of_ne hc h, List.forall_mem_cons]
      exact ⟨List.not_mem_cons_of_ne_of_not_mem (Ne.symm hc) ih.1, ih.2⟩

/-- The parts joined by single quotes are the text. -/
theorem flatten_splitAtSingle : ((splitAtSingle cs).intersperse ['\'']).flatten = cs := by
  induction cs with
  | nil => rfl
  | cons c cs ih =>
    obtain ⟨part, parts, h⟩ := exists_splitAtSingle cs
    rw [h] at ih
    by_cases hc : c = '\''
    · subst hc
      rw [splitAtSingle_quote, h, List.intersperse_cons_cons, List.flatten_cons, List.flatten_cons,
        ih]
      rfl
    · rw [splitAtSingle_of_ne hc h, ← ih]
      cases parts <;> rfl

theorem two_le_length_splitAtSingle (h : '\'' ∈ cs) : 2 ≤ (splitAtSingle cs).length := by
  induction cs with
  | nil => cases h
  | cons c cs ih =>
    obtain ⟨part, parts, hparts⟩ := exists_splitAtSingle cs
    by_cases hc : c = '\''
    · subst hc
      rw [splitAtSingle_quote, hparts, List.length_cons, List.length_cons]
      omega
    · have := ih (List.mem_of_ne_of_mem (Ne.symm hc) h)
      rw [hparts] at this
      rwa [splitAtSingle_of_ne hc hparts]

/-! ### Reading back -/

theorem read_of_lexRun (h : lexRun .between cs = (tokens, .between)) :
    Expr.read (String.ofList cs) = Expr.parse tokens := by
  rw [Expr.read, String.toList_ofList, lex, h]
  rfl

theorem exists_read_literal (s : String) :
    ∃ e, Expr.read (literal s) = some e ∧ e.IsQuoted ∧ e.value = some s.toList := by
  rw [literal, literalChars]
  by_cases hsingle : '\'' ∉ s.toList
  · rw [if_pos hsingle, read_of_lexRun (lexRun_singleQuoted hsingle)]
    exact ⟨_, rfl, .inl ⟨_, rfl⟩, rfl⟩
  by_cases hdouble : '"' ∉ s.toList
  · rw [if_neg hsingle, if_pos hdouble, read_of_lexRun (lexRun_doubleQuoted hdouble)]
    exact ⟨_, rfl, .inl ⟨_, rfl⟩, rfl⟩
  have hparts := two_le_length_splitAtSingle (not_not.1 hsingle)
  have hargs : 2 ≤ ((splitAtSingle s.toList).intersperse ['\'']).length := by
    rw [List.length_intersperse]
    omega
  have hne : splitAtSingle s.toList ≠ [] := List.ne_nil_of_length_pos (by omega)
  have hrun := lexRun_append lexRun_opening (lexRun_joinParts hne not_mem_splitAtSingle)
  rw [if_neg hsingle, if_neg hdouble, List.append_assoc, read_of_lexRun hrun]
  refine ⟨.call "concat".toList ((splitAtSingle s.toList).intersperse ['\'']), ?_,
    .inr ⟨_, hargs, rfl⟩, ?_⟩
  · rw [List.cons_append, List.cons_append, List.nil_append, Expr.parse,
      parseArgs_argTokens (List.ne_nil_of_length_pos (Nat.lt_of_succ_lt hargs))]
    rfl
  · rw [Expr.value, if_pos ⟨rfl, hargs⟩, flatten_splitAtSingle]

/-- **A quoted text is an expression for that text and nothing else.** It is one string literal, or
a call of `concat` with string literals, and its value is the text. So texts that differ are
quoted by expressions whose values differ, and an engine that evaluates the parameters of a
processor gets back their names and values. -/
theorem read_literal :
    (∀ s : String, ∃ e, Expr.read (literal s) = some e ∧ e.IsQuoted ∧ e.value = some s.toList) ∧
      (Function.Injective fun s : String => (Expr.read (literal s)).bind Expr.value) ∧
      ∀ p : Processor, p.engineParams.map (fun q => (q.1, (Expr.read q.2).bind Expr.value)) =
        p.parameters.map fun q => (q.1, some q.2.toList) := by
  have hvalue : ∀ s : String, (Expr.read (literal s)).bind Expr.value = some s.toList := by
    intro s
    obtain ⟨e, he, -, hv⟩ := exists_read_literal s
    rw [he, Option.bind_some, hv]
  refine ⟨exists_read_literal, fun s t h => ?_, fun p => ?_⟩
  · simp only [hvalue, Option.some.injEq] at h
    exact String.toList_inj.1 h
  · simp only [Processor.engineParams, List.map_map]
    exact List.map_congr_left fun q _ => by simp only [Function.comp_apply, hvalue]

example : Expr.read "concat('it', \"'\", 's')" =
    some (.call "concat".toList ["it".toList, ['\''], ['s']]) := rfl

end XPath

end StyleHost
