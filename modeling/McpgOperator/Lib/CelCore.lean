import Mathlib.Data.List.Basic
import Mathlib.Tactic.Common

/-!
# A core of the Common Expression Language

The tokens of the language, as far as field selections, string literals and
equality need them, and what an expression of these evaluates to. A literal
is in double quotes. On one line it holds any character but a quote, a
backslash and the two that end a line, and escapes; in triple quotes it runs
over lines, to the next three. The longest token counts.

`Body` is the grammar of what a literal holds between its quotes, and
`readBody` the reader; `readBody_iff` says that the reader is the grammar.
-/

namespace CelCore

/-! ## Escapes -/

/-- The escapes of one letter. -/
def simpleEscape : Char → Option Char
  | 'a' => some '\x07'
  | 'b' => some '\x08'
  | 'f' => some '\x0c'
  | 'n' => some '\n'
  | 'r' => some '\r'
  | 't' => some '\t'
  | 'v' => some '\x0b'
  | '\\' => some '\\'
  | '?' => some '?'
  | '"' => some '"'
  | '\x27' => some '\x27'
  | '\x60' => some '\x60'
  | _ => none

/-- The value of a digit. -/
def digit (base : Nat) (c : Char) : Option Nat :=
  let n :=
    if '0' ≤ c ∧ c ≤ '9' then c.toNat - '0'.toNat
    else if 'a' ≤ c ∧ c ≤ 'f' then c.toNat - 'a'.toNat + 10
    else if 'A' ≤ c ∧ c ≤ 'F' then c.toNat - 'A'.toNat + 10
    else base
  if n < base then some n else none

/-- The character whose number the digits are. -/
def codePoint (base : Nat) (ds : List Char) : Option Char :=
  (ds.foldlM (fun n d => (digit base d).map (n * base + ·)) 0).bind fun n =>
    if n.isValidChar then some (Char.ofNat n) else none

/-- How many characters an escape has that begins like this, behind its
backslash. -/
def escapeWidth : Char → Nat
  | 'x' | 'X' => 3
  | 'u' => 5
  | 'U' => 9
  | '0' | '1' | '2' | '3' => 3
  | _ => 1

/-- What an escape of that width stands for. -/
def escapeValue : List Char → Option Char
  | 'x' :: ds | 'X' :: ds | 'u' :: ds | 'U' :: ds => codePoint 16 ds
  | [c] => simpleEscape c
  | ds => codePoint 8 ds

/-- An escape, behind its backslash, and the character it stands for. -/
def Escape (text : List Char) (value : Char) : Prop :=
  ∃ c ds, text = c :: ds ∧ text.length = escapeWidth c ∧
    escapeValue text = some value

theorem escapeWidth_pos (c : Char) : 0 < escapeWidth c := by
  unfold escapeWidth
  split <;> omega

/-- The escape at the front of a text, and its width. -/
def escapeAt : List Char → Option (Char × Nat)
  | [] => none
  | c :: cs =>
      let text := (c :: cs).take (escapeWidth c)
      if text.length = escapeWidth c then
        (escapeValue text).map (·, escapeWidth c)
      else none

theorem escapeAt_eq_some {input : List Char} {v : Char} {width : Nat} :
    escapeAt input = some (v, width) ↔
      ∃ e rest, input = e ++ rest ∧ e.length = width ∧ Escape e v := by
  constructor
  · intro h
    cases input with
    | nil => cases h
    | cons c cs =>
        unfold escapeAt at h
        dsimp only at h
        by_cases hlength : ((c :: cs).take (escapeWidth c)).length =
            escapeWidth c
        · rw [if_pos hlength] at h
          obtain ⟨v', hvalue, heq⟩ := Option.map_eq_some_iff.mp h
          cases heq
          refine ⟨(c :: cs).take (escapeWidth c),
            (c :: cs).drop (escapeWidth c), (List.take_append_drop _ _).symm,
            hlength, c, cs.take (escapeWidth c - 1), ?_, hlength, hvalue⟩
          exact List.take_cons (escapeWidth_pos c)
        · rw [if_neg hlength] at h
          cases h
  · rintro ⟨e, rest, rfl, rfl, c, ds, rfl, hlength, hvalue⟩
    have htake : (c :: (ds ++ rest)).take (escapeWidth c) = c :: ds := by
      rw [← hlength, ← List.cons_append, List.take_left]
    rw [List.cons_append]
    unfold escapeAt
    dsimp only
    rw [htake, if_pos hlength, hvalue, hlength]
    rfl

/-! ## Literals -/

/-- What a literal on one line holds between its quotes, and its value. -/
inductive Body : List Char → List Char → Prop
  | nil : Body [] []
  | plain {c : Char} {text value : List Char} (hquote : c ≠ '"')
      (hslash : c ≠ '\\') (hfeed : c ≠ '\n') (hreturn : c ≠ '\r')
      (h : Body text value) : Body (c :: text) (c :: value)
  | escape {e text value : List Char} {v : Char} (he : Escape e v)
      (h : Body text value) : Body ('\\' :: (e ++ text)) (v :: value)

/-- The text is one literal on one line. -/
def DoubleQuoted (text value : List Char) : Prop :=
  ∃ body, text = '"' :: (body ++ ['"']) ∧ Body body value

/-- A literal behind its quote, after so many characters that are read
already: its value and what follows it. -/
def readBody : Nat → List Char → Option (List Char × List Char)
  | _, [] => none
  | k + 1, _ :: cs => readBody k cs
  | 0, c :: cs =>
      if c = '"' then some ([], cs)
      else if c = '\\' then
        (escapeAt cs).bind fun (v, width) =>
          (readBody width cs).map fun (value, rest) => (v :: value, rest)
      else if c = '\n' ∨ c = '\r' then none
      else (readBody 0 cs).map fun (value, rest) => (c :: value, rest)

theorem readBody_skip (k : Nat) (cs : List Char) :
    readBody k cs = readBody 0 (cs.drop k) := by
  induction cs generalizing k with
  | nil =>
      rw [List.drop_nil]
      cases k <;> rfl
  | cons c cs ih =>
      cases k with
      | zero => rfl
      | succ k => exact ih k

theorem readBody_quote (cs : List Char) :
    readBody 0 ('"' :: cs) = some ([], cs) := rfl

theorem readBody_plain {c : Char} (hquote : c ≠ '"') (hslash : c ≠ '\\')
    (hfeed : c ≠ '\n') (hreturn : c ≠ '\r') (cs : List Char) :
    readBody 0 (c :: cs) =
      (readBody 0 cs).map fun (value, rest) => (c :: value, rest) := by
  conv_lhs => unfold readBody
  rw [if_neg hquote, if_neg hslash,
    if_neg (not_or.mpr ⟨hfeed, hreturn⟩)]

theorem readBody_lineEnd {c : Char} (h : c = '\n' ∨ c = '\r')
    (cs : List Char) : readBody 0 (c :: cs) = none := by
  rcases h with rfl | rfl <;> rfl

theorem readBody_escape {e : List Char} {v : Char} (he : Escape e v)
    (cs : List Char) :
    readBody 0 ('\\' :: (e ++ cs)) =
      (readBody 0 cs).map fun (value, rest) => (v :: value, rest) := by
  have hat : escapeAt (e ++ cs) = some (v, e.length) :=
    escapeAt_eq_some.mpr ⟨e, cs, rfl, rfl, he⟩
  show ((escapeAt (e ++ cs)).bind fun (v, width) =>
    (readBody width (e ++ cs)).map fun (value, rest) =>
      (v :: value, rest)) = _
  rw [hat, Option.bind_some]
  dsimp only
  rw [readBody_skip, List.drop_left]

/-- The reader reads up to the first quote that closes the literal. -/
theorem readBody_iff {input value rest : List Char} :
    readBody 0 input = some (value, rest) ↔
      ∃ text, input = text ++ '"' :: rest ∧ Body text value := by
  constructor
  · intro h
    -- an escape takes several characters, so the induction is on the length
    induction hn : input.length using Nat.strongRecOn
      generalizing input value with
    | _ n ih =>
      cases input with
      | nil => cases h
      | cons c cs =>
          by_cases hquote : c = '"'
          · subst hquote
            cases h
            exact ⟨[], rfl, .nil⟩
          by_cases hslash : c = '\\'
          · subst hslash
            obtain ⟨⟨v, width⟩, hat, hmap⟩ := Option.bind_eq_some_iff.mp h
            obtain ⟨⟨value', rest'⟩, hread, heq⟩ :=
              Option.map_eq_some_iff.mp hmap
            cases heq
            obtain ⟨e, cs', rfl, rfl, he⟩ := escapeAt_eq_some.mp hat
            rw [readBody_skip, List.drop_left] at hread
            have hshorter : cs'.length < n := by
              rw [← hn, List.length_cons, List.length_append]
              omega
            obtain ⟨text, rfl, hbody⟩ := ih cs'.length hshorter hread rfl
            refine ⟨'\\' :: (e ++ text), ?_, .escape he hbody⟩
            rw [List.cons_append, List.append_assoc]
          · by_cases hline : c = '\n' ∨ c = '\r'
            · rw [readBody_lineEnd hline] at h
              cases h
            · obtain ⟨hfeed, hreturn⟩ := not_or.mp hline
              rw [readBody_plain hquote hslash hfeed hreturn] at h
              obtain ⟨⟨value', rest'⟩, hread, heq⟩ :=
                Option.map_eq_some_iff.mp h
              cases heq
              have hshorter : cs.length < n := by
                rw [← hn, List.length_cons]
                omega
              obtain ⟨text, rfl, hbody⟩ := ih cs.length hshorter hread rfl
              exact ⟨c :: text, rfl,
                .plain hquote hslash hfeed hreturn hbody⟩
  · rintro ⟨text, rfl, hbody⟩
    induction hbody with
    | nil => exact readBody_quote rest
    | plain hquote hslash hfeed hreturn _ ih =>
        rw [List.cons_append, readBody_plain hquote hslash hfeed hreturn, ih]
        rfl
    | escape he _ ih =>
        rw [List.cons_append, List.append_assoc, readBody_escape he, ih]
        rfl

/-- The same in triple quotes. -/
def readLong : Nat → List Char → Option (List Char × List Char)
  | _, [] => none
  | k + 1, _ :: cs => readLong k cs
  | 0, c :: cs =>
      if c = '"' ∧ cs.take 2 = ['"', '"'] then some ([], cs.drop 2)
      else if c = '\\' then
        (escapeAt cs).bind fun (v, width) =>
          (readLong width cs).map fun (value, rest) => (v :: value, rest)
      else (readLong 0 cs).map fun (value, rest) => (c :: value, rest)

/-- A literal behind its first quote: the long one, where there is one. -/
def readLiteral (cs : List Char) : Option (List Char × List Char) :=
  match cs with
  | '"' :: '"' :: rest => (readLong 0 rest).or (readBody 0 cs)
  | _ => readBody 0 cs

/-! ## Tokens -/

inductive Token
  | ident (name : String)
  | dot
  | equals
  | str (value : String)
  deriving DecidableEq, Repr

def isSpace (c : Char) : Bool :=
  c = ' ' || c = '\t' || c = '\n' || c = '\r' || c = '\x0c'

def isIdentStart (c : Char) : Bool := c.isAlpha || c = '_'

def isIdentRest (c : Char) : Bool := c.isAlphanum || c = '_'

/-- The token at the front of a text that does not begin with a space. -/
def readToken : List Char → Option (Token × List Char)
  | [] => none
  | '.' :: cs => some (.dot, cs)
  | '=' :: '=' :: cs => some (.equals, cs)
  | '"' :: cs =>
      (readLiteral cs).map fun (value, rest) =>
        (.str (String.ofList value), rest)
  | c :: cs =>
      if isIdentStart c then
        some (.ident (String.ofList (c :: cs.takeWhile isIdentRest)),
          cs.dropWhile isIdentRest)
      else none

/-- The tokens of a text, at most as many as asked for. -/
def readTokens : Nat → List Char → Option (List Token)
  | n, cs =>
      match cs.dropWhile isSpace, n with
      | [], _ => some []
      | _, 0 => none
      | cs, n + 1 =>
          (readToken cs).bind fun (t, rest) =>
            (readTokens n rest).map (t :: ·)

theorem readTokens_token {cs rest : List Char} {t : Token}
    (h : readToken (cs.dropWhile isSpace) = some (t, rest)) (n : Nat) :
    readTokens (n + 1) cs = (readTokens n rest).map (t :: ·) := by
  conv_lhs => unfold readTokens
  cases hspaces : cs.dropWhile isSpace with
  | nil =>
      rw [hspaces] at h
      cases h
  | cons c cs' =>
      rw [hspaces] at h
      dsimp only
      rw [h]
      rfl

theorem readTokens_stuck {cs : List Char} {c : Char} {cs' : List Char}
    (hspaces : cs.dropWhile isSpace = c :: cs')
    (h : readToken (c :: cs') = none) (n : Nat) : readTokens n cs = none := by
  unfold readTokens
  rw [hspaces]
  cases n with
  | zero => rfl
  | succ n =>
      dsimp only
      rw [h]
      rfl

def tokens (text : String) : Option (List Token) :=
  readTokens text.toList.length text.toList

/-! ## Expressions -/

inductive Expr
  | ident (name : String)
  | select (e : Expr) (field : String)
  | str (value : String)
  | equals (a b : Expr)
  deriving DecidableEq, Repr

/-- The fields selected from an expression. -/
def parseSelects (e : Expr) : List Token → Expr × List Token
  | .dot :: .ident field :: ts => parseSelects (.select e field) ts
  | ts => (e, ts)

def parseMember : List Token → Option (Expr × List Token)
  | .ident name :: ts => some (parseSelects (.ident name) ts)
  | .str value :: ts => some (.str value, ts)
  | _ => none

/-- A member, or an equality of two. -/
def parse (ts : List Token) : Option Expr :=
  (parseMember ts).bind fun (a, ts) =>
    match ts with
    | [] => some a
    | .equals :: ts =>
        (parseMember ts).bind fun (b, ts) =>
          if ts = [] then some (.equals a b) else none
    | _ => none

inductive Value
  | null
  | bool (b : Bool)
  | int (n : Int)
  | str (s : String)
  | map (fields : List (String × Value))

/-- Equality; of two maps it is not part of the core. -/
def Value.equals : Value → Value → Option Bool
  | .null, .null => some true
  | .bool a, .bool b => some (a == b)
  | .int a, .int b => some (a == b)
  | .str a, .str b => some (a == b)
  | .map _, .map _ => none
  | _, _ => some false

/-- The value of an expression; none is an error, as the selection of a
field that is not there. -/
def eval (env : String → Option Value) : Expr → Option Value
  | .ident name => env name
  | .select e field =>
      match eval env e with
      | some (.map fields) => fields.lookup field
      | _ => none
  | .str value => some (.str value)
  | .equals a b =>
      (eval env a).bind fun x => (eval env b).bind fun y =>
        (x.equals y).map .bool

/-- The value of a text; none as well where it is no expression. -/
def run (env : String → Option Value) (text : String) : Option Value :=
  ((tokens text).bind parse).bind (eval env)

end CelCore
