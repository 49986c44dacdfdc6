import EncosDriver.Lib.FileStream

set_option autoImplicit false

namespace EncosDriver.Lib.Shell

abbrev Piece := UInt8 × Bool

inductive Token where
  | word (pieces : List Piece)
  | operator (symbol : UInt8)
deriving DecidableEq

inductive Mode where
  | bare
  | escaped
  | single
  | double
  | doubleEscaped
  | comment
deriving DecidableEq

structure Lexer where
  tokens : List Token := []
  word : Option (List Piece) := none
  mode : Mode := .bare
deriving DecidableEq

namespace Lexer

def begin (lexer : Lexer) (mode : Mode) : Lexer := { lexer with word := some (lexer.word.getD []), mode := mode }

def add (lexer : Lexer) (byte : UInt8) (quoted : Bool) (mode : Mode) : Lexer :=
  { lexer with word := some (lexer.word.getD [] ++ [(byte, quoted)]), mode := mode }

def delimit (lexer : Lexer) : Lexer :=
  { lexer with tokens := lexer.tokens ++ (lexer.word.map Token.word).toList, word := none }

def operator (lexer : Lexer) (symbol : UInt8) : Lexer :=
  { lexer.delimit with tokens := lexer.delimit.tokens ++ [.operator symbol], mode := .bare }

end Lexer

def blank (byte : UInt8) : Bool := byte = 0x20 || byte = 0x09

def operators : List UInt8 := [0x0A, 0x7C, 0x26, 0x3B, 0x3C, 0x3E, 0x28, 0x29]

def step (lexer : Lexer) (byte : UInt8) : Lexer :=
  match lexer.mode with
  | .bare =>
    if byte = 0x5C then { lexer with mode := .escaped }
    else if byte = 0x27 then lexer.begin .single
    else if byte = 0x22 then lexer.begin .double
    else if blank byte then lexer.delimit
    else if byte ∈ operators then lexer.operator byte
    else if byte = 0x23 ∧ lexer.word = none then { lexer with mode := .comment }
    else lexer.add byte false .bare
  | .escaped =>
    -- An escaped line feed joins two lines.
    if byte = 0x0A then { lexer with mode := .bare } else lexer.add byte true .bare
  | .single => if byte = 0x27 then { lexer with mode := .bare } else lexer.add byte true .single
  | .double =>
    if byte = 0x22 then { lexer with mode := .bare }
    else if byte = 0x5C then { lexer with mode := .doubleEscaped }
    else lexer.add byte (byte ≠ 0x24 && byte ≠ 0x60) .double
  | .doubleEscaped =>
    if byte = 0x0A then { lexer with mode := .double }
    else if byte = 0x24 ∨ byte = 0x60 ∨ byte = 0x22 ∨ byte = 0x5C then lexer.add byte true .double
    else (lexer.add 0x5C true .double).add byte true .double
  | .comment => if byte = 0x0A then lexer.operator byte else lexer

def lex (text : Octets) : Option (List Token) :=
  let lexer := text.foldl step {}
  if lexer.mode = .bare ∨ lexer.mode = .comment then some lexer.delimit.tokens else none

def meaningful : List UInt8 := [0x24, 0x60, 0x2A, 0x3F, 0x5B, 0x7E, 0x3D, 0x21, 0x7B, 0x7D]

def reservedWords : List Octets :=
  ["case", "do", "done", "elif", "else", "esac", "fi", "for", "if", "in", "then", "until", "while"].map fun word =>
    word.toList.map fun letter => letter.toNat.toUInt8

def literal (pieces : List Piece) : Bool :=
  pieces.all (fun piece => piece.2 || piece.1 ∉ meaningful) &&
    !(pieces.all (fun piece => !piece.2) && reservedWords.contains (pieces.map Prod.fst))

def field : Token → Option Octets
  | .word pieces => if literal pieces then some (pieces.map Prod.fst) else none
  | .operator _ => none

def command (text : Octets) : Option (List Octets) := (lex text).bind fun tokens => tokens.mapM field

def quotedWord (value : Octets) : Token := .word (value.map fun byte => (byte, true))

theorem literal_quoted (value : Octets) : literal (value.map fun byte => (byte, true)) = true := by
  rw [literal, Bool.and_eq_true]
  refine ⟨?_, ?_⟩
  · simp
  · cases value with
    | nil => decide
    | cons byte rest => simp

theorem field_quoted (value : Octets) : field (quotedWord value) = some value := by
  rw [quotedWord, field, if_pos (literal_quoted value), List.map_map]
  simp [Function.comp_def]

theorem command_quoted (text : Octets) (values : List Octets) (words : lex text = some (values.map quotedWord)) :
    command text = some values := by
  have fields : field ∘ quotedWord = pure := funext field_quoted
  have kept : values.mapM (m := Option) pure = some (values.map id) := List.mapM_pure
  rw [command, words, Option.bind_some, List.mapM_map, fields, kept, List.map_id]

theorem lex_single (lexer : Lexer) (pieces : List Piece) (body : Octets) (inside : lexer.mode = .single) (word : lexer.word = some pieces) :
    (body.flatMap fun byte => if byte = 0x27 then [0x27, 0x5C, 0x27, 0x27] else [byte]).foldl step lexer =
      { lexer with word := some (pieces ++ body.map fun byte => (byte, true)) } := by
  induction body generalizing lexer pieces with
  | nil =>
    simp only [List.flatMap_nil, List.foldl_nil, List.map_nil, List.append_nil, ← word]
  | cons byte body ih =>
    have taken : (if byte = 0x27 then [0x27, 0x5C, 0x27, 0x27] else [byte]).foldl step lexer =
        { lexer with word := some (pieces ++ [(byte, true)]) } := by
      by_cases quote : byte = 0x27
      · subst quote
        simp [step, inside, word, Lexer.add, Lexer.begin]
      · simp [step, inside, word, quote, Lexer.add]
    rw [List.flatMap_cons, List.foldl_append, taken,
      ih { lexer with word := some (pieces ++ [(byte, true)]) } (pieces ++ [(byte, true)]) inside rfl, List.append_assoc]
    rfl

end EncosDriver.Lib.Shell
